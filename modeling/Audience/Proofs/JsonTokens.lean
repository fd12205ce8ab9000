import Audience.Json.Printer
import Audience.Json.Token
import Audience.Proofs.Digits

/-! # Reading the characters of a value

The characters of a value are read as its tokens. A number goes on until a character ends it, so the
statements are about a value with the text that follows it: nothing, a comma or a closing bracket.

* **`Json.IsSpelled v`** — a value whose numbers are written the way numbers have to be.
* **`Json.spelling v`** — the tokens of a value.
* **`Json.tokens?_chars`** — the characters of a value are read as its tokens. -/

namespace Audience

/-! ## Values that can be written -/

/-- A numeral is spelled when it has digits before the point, with no zero in front of others, and
digits in its exponent if it has one. -/
structure Numeral.IsSpelled (n : Numeral) : Prop where
  leading : n.whole = ['0'] ∨ ∃ c cs, n.whole = c :: cs ∧ c ≠ '0'
  whole : ∀ c ∈ n.whole, c.isDigit = true
  fraction : ∀ c ∈ n.fraction, c.isDigit = true
  exponent : ∀ e ∈ n.exponent, e.2 ≠ [] ∧ ∀ c ∈ e.2, c.isDigit = true

/-- The numeral of a natural number is spelled. -/
theorem Numeral.isSpelled_ofNat (n : Nat) : (Numeral.ofNat n).IsSpelled where
  leading := natDigits_cases n
  whole _ := isDigit_of_mem_natDigits
  fraction := by simp [Numeral.ofNat]
  exponent := by simp [Numeral.ofNat]

namespace Json

/-- A value is spelled when it is readable and all its numbers are spelled. -/
inductive IsSpelled : Json → Prop
  | null : IsSpelled .null
  | bool (b : Bool) : IsSpelled (.bool b)
  | number {n : Numeral} (h : n.IsSpelled) : IsSpelled (.number n)
  | text (s : String) : IsSpelled (.text s)
  | array {items : List Json} (h : ∀ v ∈ items, IsSpelled v) : IsSpelled (.array items)
  | object {members : List (String × Json)} (h : ∀ m ∈ members, IsSpelled m.2) :
    IsSpelled (.object members)

/-! ## Reading on -/

/-- The tokens of a text that is read on from a state of the automaton. -/
def lexFrom (s : LexState) (cs : List Char) : Option (List Token) :=
  (cs.foldlM lexStep s).bind LexState.finish

/-- At the end of the text the state has to be a final one. -/
theorem lexFrom_nil (s : LexState) : lexFrom s [] = s.finish := rfl

/-- Cons reading of `lexFrom`. -/
theorem lexFrom_cons (s : LexState) (c : Char) (cs : List Char) :
    lexFrom s (c :: cs) = (lexStep s c).bind (fun s => lexFrom s cs) := by
  rw [lexFrom, List.foldlM_cons, Option.bind_eq_bind, Option.bind_assoc]
  rfl

/-- After a step the rest is read from the state that it leads to. -/
theorem lexFrom_of_step {s s' : LexState} {c : Char} (cs : List Char)
    (h : lexStep s c = some s') : lexFrom s (c :: cs) = lexFrom s' cs := by
  rw [lexFrom_cons, h, Option.bind_some]

/-- A text that may follow a value: it is empty or starts with a comma or a closing bracket. -/
def Closes (cs : List Char) : Prop :=
  cs = [] ∨ ∃ c rest, cs = c :: rest ∧ (c = ',' ∨ c = ']' ∨ c = '\x7d')

/-- A text that starts with a comma or a closing bracket may follow a value. -/
theorem closes_cons {c : Char} (rest : List Char) (h : c = ',' ∨ c = ']' ∨ c = '\x7d') :
    Closes (c :: rest) := .inr ⟨c, rest, rfl, h⟩

/-! ## Strings -/

/-- A written hexadecimal digit has its value. -/
theorem hexValue?_hexDigit : ∀ n < 16, hexValue? (hexDigit n) = some n := by decide

/-- The state within a string of which the characters `acc` have been read, last first. -/
def inText (ts : List Token) (acc : List Char) (phase : TextPhase) : LexState :=
  ⟨ts, .text ⟨some acc, none, phase⟩⟩

/-- The last digit of an escaped control character completes it. -/
theorem lexStep_unit {value d : Nat} {c x : Char} (ts : List Token) (acc : List Char)
    (hx : hexValue? x = some d) (hc : value * 16 + d = c.toNat) (hcontrol : c.toNat < 0x20) :
    lexStep (inText ts acc (.unit 1 value)) x = some (inText ts (c :: acc) .plain) := by
  have hlow : ¬(0xDC00 ≤ c.toNat ∧ c.toNat ≤ 0xDFFF) := by omega
  have hhigh : ¬(0xD800 ≤ c.toNat ∧ c.toNat ≤ 0xDBFF) := by omega
  simp only [lexStep, inText, stepText, hx, hc, Option.map_some, Nat.le_refl, if_true,
    TextSoFar.pushUnit, hlow, hhigh, if_false, TextSoFar.push, Char.ofNat_toNat]
  rfl

/-- What stands for a character in a string is read as that character. -/
theorem lexFrom_escapeChar (ts : List Token) (acc : List Char) (c : Char) (rest : List Char) :
    lexFrom (inText ts acc .plain) (escapeChar c ++ rest)
      = lexFrom (inText ts (c :: acc) .plain) rest := by
  -- seven characters have an escape of their own; control characters are numbered
  rw [escapeChar.eq_def]
  split
  · rfl
  · rfl
  · rfl
  · rfl
  · rfl
  · rfl
  · rfl
  · rename_i hquote hslash _ _ _ _ _
    split
    · rename_i hcontrol
      -- four hexadecimal digits, of which the first two are zeros
      have hopen : lexFrom (inText ts acc .plain) ('\\' :: 'u' :: '0' :: '0' ::
          hexDigit (c.toNat / 16) :: hexDigit (c.toNat % 16) :: rest)
          = lexFrom (inText ts acc (.unit 2 0))
            (hexDigit (c.toNat / 16) :: hexDigit (c.toNat % 16) :: rest) := rfl
      have hthird : lexStep (inText ts acc (.unit 2 0)) (hexDigit (c.toNat / 16))
          = some (inText ts acc (.unit 1 (c.toNat / 16))) := by
        simp [lexStep, inText, stepText, hexValue?_hexDigit (c.toNat / 16) (by omega)]
      have hfourth := lexStep_unit ts acc (hexValue?_hexDigit (c.toNat % 16) (by omega))
        (show c.toNat / 16 * 16 + c.toNat % 16 = c.toNat by omega) hcontrol
      simp only [List.cons_append, List.nil_append]
      rw [hopen, lexFrom_of_step _ hthird, lexFrom_of_step _ hfourth]
    · rename_i hcontrol
      apply lexFrom_of_step
      simp only [lexStep, inText, stepText]
      rw [if_neg (fun h => hquote h), if_neg (fun h => hslash h), if_neg hcontrol]
      rfl

/-- The characters of a string, up to the quotation mark that ends it. -/
theorem lexFrom_textEnd (ts : List Token) (cs acc rest : List Char) :
    lexFrom (inText ts acc .plain) (cs.flatMap escapeChar ++ '"' :: rest)
      = lexFrom ⟨.text (some (String.ofList (acc.reverse ++ cs))) :: ts, .between⟩ rest := by
  induction cs generalizing acc with
  | nil =>
    rw [List.append_nil]
    rfl
  | cons c cs ih =>
    rw [List.flatMap_cons, List.append_assoc, lexFrom_escapeChar, ih, List.reverse_cons,
      List.append_assoc, List.singleton_append]

/-- A string is read back, whatever follows it. -/
theorem lexFrom_quote (ts : List Token) (s : String) (rest : List Char) :
    lexFrom ⟨ts, .between⟩ (quote s ++ rest) = lexFrom ⟨.text (some s) :: ts, .between⟩ rest := by
  have hstart : lexStep ⟨ts, .between⟩ '"' = some (inText ts [] .plain) := rfl
  rw [quote, List.cons_append, lexFrom_of_step _ hstart, List.append_assoc,
    List.singleton_append, lexFrom_textEnd, List.reverse_nil, List.nil_append,
    String.ofList_toList]

/-! ## Numbers -/

/-- A number that may end does so where the text closes. -/
theorem lexFrom_number_closes {ts : List Token} {n : NumberSoFar} {m : Numeral}
    {rest : List Char} (hm : n.finish? = some m) (hrest : Closes rest) :
    lexFrom ⟨ts, .number n⟩ rest = lexFrom ⟨.number m :: ts, .between⟩ rest := by
  obtain rfl | ⟨c, rest, rfl, hc⟩ := hrest
  · simp [lexFrom_nil, LexState.finish, hm]
  · have hends : n.step c = .ends := by
      obtain ⟨negative, whole, fraction, exponent, phase⟩ := n
      -- in the phases in which a number may end, each closing character ends it
      cases phase with
      | sign | point | mark | markSign => exact absurd hm (by simp [NumberSoFar.finish?])
      | zero | whole | fraction | exponent => rcases hc with rfl | rfl | rfl <;> rfl
    rw [lexFrom_cons, lexFrom_cons]
    simp only [lexStep, hends, hm, Option.bind_some]

/-- The digits of one part of a number are taken one after another. -/
theorem lexFrom_digits (part : List Char → NumberSoFar)
    (hpart : ∀ before c, c.isDigit = true → (part before).step c = .more (part (c :: before)))
    (ts : List Token) (before : List Char) {ds : List Char} (rest : List Char)
    (hds : ∀ c ∈ ds, c.isDigit = true) :
    lexFrom ⟨ts, .number (part before)⟩ (ds ++ rest)
      = lexFrom ⟨ts, .number (part (ds.reverse ++ before))⟩ rest := by
  induction ds generalizing before with
  | nil => rfl
  | cons d ds ih =>
    have hlex : lexStep ⟨ts, .number (part before)⟩ d
        = some ⟨ts, .number (part (d :: before))⟩ := by
      simp only [lexStep, hpart before d (hds d List.mem_cons_self)]
    rw [List.cons_append, lexFrom_of_step _ hlex,
      ih _ fun c hc => hds c (List.mem_cons_of_mem _ hc), List.reverse_cons, List.append_assoc,
      List.singleton_append]

/-- A digit that is not zero starts a number. -/
theorem stepBetween_digit {c : Char} (ts : List Token) (hd : c.isDigit = true) (hc : c ≠ '0') :
    stepBetween ts c = some ⟨ts, .number ⟨false, [c], [], none, .whole⟩⟩ := by
  have hspace : ¬isSpace c = true := by
    intro h
    simp only [isSpace, Bool.or_eq_true, beq_iff_eq] at h
    rcases h with ((rfl | rfl) | rfl) | rfl <;> exact absurd hd (by decide)
  rw [stepBetween, if_neg hspace, if_pos hd]
  -- what remains: the character is none of those that start something else
  all_goals
    rintro rfl
    first
      | exact hc rfl
      | exact absurd hd (by decide)

/-- The phase after the digits before the point. -/
def wholePhase (whole : List Char) : NumberPhase := if whole = ['0'] then .zero else .whole

/-- The sign and the digits before the point. -/
theorem lexFrom_whole {n : Numeral} (hn : n.IsSpelled) (ts : List Token) (rest : List Char) :
    lexFrom ⟨ts, .between⟩ ((if n.negative then ['-'] else []) ++ (n.whole ++ rest))
      = lexFrom ⟨ts, .number ⟨n.negative, n.whole.reverse, [], none, wholePhase n.whole⟩⟩
        rest := by
  rcases hn.leading with hzero | ⟨c, cs, hcs, hc⟩
  · rw [hzero]
    cases n.negative <;> rfl
  · have hall := hn.whole
    rw [hcs] at hall ⊢
    have hcd : c.isDigit = true := hall c List.mem_cons_self
    have hphase : wholePhase (c :: cs) = .whole := by
      rw [wholePhase, if_neg (by simp [hc])]
    have hdigits := lexFrom_digits (fun ds => ⟨n.negative, ds, [], none, .whole⟩)
      (fun before d hd => by simp [NumberSoFar.step, hd]) ts [c] rest
      (fun d hd => hall d (List.mem_cons_of_mem _ hd))
    -- the first digit is read from another phase than the rest
    rw [hphase, List.reverse_cons, ← hdigits]
    cases n.negative with
    | false =>
      have hfirst : lexStep ⟨ts, .between⟩ c = _ := stepBetween_digit ts hcd hc
      simp only [Bool.false_eq_true, if_false, List.nil_append, List.cons_append]
      rw [lexFrom_of_step _ hfirst]
    | true =>
      have hsign : lexStep ⟨ts, .between⟩ '-'
          = some ⟨ts, .number ⟨true, [], [], none, .sign⟩⟩ := rfl
      have hfirst : lexStep ⟨ts, .number ⟨true, [], [], none, .sign⟩⟩ c
          = some ⟨ts, .number ⟨true, [c], [], none, .whole⟩⟩ := by
        simp [lexStep, NumberSoFar.step, hc, hcd]
      simp only [if_true, List.cons_append, List.nil_append]
      rw [lexFrom_of_step _ hsign, lexFrom_of_step _ hfirst]

/-- The digits after the point, if there are any. The phase they end in is one in which a number may
end and an exponent may follow. -/
theorem lexFrom_fraction {n : Numeral} (hn : n.IsSpelled) (ts : List Token) (rest : List Char) :
    ∃ phase, (phase = .zero ∨ phase = .whole ∨ phase = .fraction) ∧
      lexFrom ⟨ts, .number ⟨n.negative, n.whole.reverse, [], none, wholePhase n.whole⟩⟩
          (Numeral.renderFraction n.fraction ++ rest)
        = lexFrom ⟨ts, .number ⟨n.negative, n.whole.reverse, n.fraction.reverse, none, phase⟩⟩
          rest := by
  have hfrac := hn.fraction
  have hphase : wholePhase n.whole = .zero ∨ wholePhase n.whole = .whole := by
    rw [wholePhase]
    split <;> simp
  cases hcs : n.fraction with
  -- without a fraction not even the point is written
  | nil => exact ⟨wholePhase n.whole, hphase.imp_right .inl, rfl⟩
  | cons c cs =>
    rw [hcs] at hfrac
    refine ⟨.fraction, .inr (.inr rfl), ?_⟩
    have hpoint : lexStep
        ⟨ts, .number ⟨n.negative, n.whole.reverse, [], none, wholePhase n.whole⟩⟩ '.'
        = some ⟨ts, .number ⟨n.negative, n.whole.reverse, [], none, .point⟩⟩ := by
      rcases hphase with h | h <;> rw [h] <;> rfl
    have hfirst : lexStep ⟨ts, .number ⟨n.negative, n.whole.reverse, [], none, .point⟩⟩ c
        = some ⟨ts, .number ⟨n.negative, n.whole.reverse, [c], none, .fraction⟩⟩ := by
      simp [lexStep, NumberSoFar.step, hfrac c List.mem_cons_self]
    rw [Numeral.renderFraction, List.cons_append, List.cons_append, lexFrom_of_step _ hpoint,
      lexFrom_of_step _ hfirst, List.reverse_cons]
    exact lexFrom_digits (fun ds => ⟨n.negative, n.whole.reverse, ds, none, .fraction⟩)
      (fun before d hd => by simp [NumberSoFar.step, hd]) ts [c] rest
      (fun d hd => hfrac d (List.mem_cons_of_mem _ hd))

/-- The exponent, if there is one, and the end of the number. -/
theorem lexFrom_exponent {n : Numeral} (hn : n.IsSpelled) (ts : List Token) {rest : List Char}
    (hrest : Closes rest) {phase : NumberPhase}
    (hphase : phase = .zero ∨ phase = .whole ∨ phase = .fraction) :
    lexFrom ⟨ts, .number ⟨n.negative, n.whole.reverse, n.fraction.reverse, none, phase⟩⟩
        (Numeral.renderExponent n.exponent ++ rest)
      = lexFrom ⟨.number n :: ts, .between⟩ rest := by
  obtain ⟨negative, whole, fraction, exponent⟩ := n
  cases exponent with
  | none =>
    refine lexFrom_number_closes ?_ hrest
    rcases hphase with rfl | rfl | rfl <;> simp [NumberSoFar.finish?]
  | some e =>
    obtain ⟨neg, ds⟩ := e
    obtain ⟨hne, hds⟩ := hn.exponent _ rfl
    have hmark : lexStep
        ⟨ts, .number ⟨negative, whole.reverse, fraction.reverse, none, phase⟩⟩ 'e'
        = some ⟨ts, .number ⟨negative, whole.reverse, fraction.reverse, none, .mark⟩⟩ := by
      rcases hphase with rfl | rfl | rfl <;> rfl
    have hsign : lexStep ⟨ts, .number ⟨negative, whole.reverse, fraction.reverse, none, .mark⟩⟩
        (if neg then '-' else '+') = some ⟨ts, .number
          ⟨negative, whole.reverse, fraction.reverse, some (neg, []), .markSign⟩⟩ := by
      cases neg <;> rfl
    simp only
    rw [Numeral.renderExponent, List.cons_append, List.cons_append, lexFrom_of_step _ hmark,
      lexFrom_of_step _ hsign]
    cases ds with
    | nil => exact absurd rfl hne
    | cons d ds =>
      have hfirst : lexStep ⟨ts, .number
          ⟨negative, whole.reverse, fraction.reverse, some (neg, []), .markSign⟩⟩ d
          = some ⟨ts, .number
            ⟨negative, whole.reverse, fraction.reverse, some (neg, [d]), .exponent⟩⟩ := by
        simp [lexStep, NumberSoFar.step, hds d List.mem_cons_self, NumberSoFar.pushExponent]
      rw [List.cons_append, lexFrom_of_step _ hfirst, lexFrom_digits
        (fun ds => ⟨negative, whole.reverse, fraction.reverse, some (neg, ds), .exponent⟩)
        (fun before d hd => by simp [NumberSoFar.step, hd, NumberSoFar.pushExponent]) ts [d] rest
        (fun c hc => hds c (List.mem_cons_of_mem _ hc))]
      refine lexFrom_number_closes ?_ hrest
      simp [NumberSoFar.finish?]

/-- A number is read back where the text closes after it. -/
theorem lexFrom_render {n : Numeral} (hn : n.IsSpelled) (ts : List Token) {rest : List Char}
    (hrest : Closes rest) :
    lexFrom ⟨ts, .between⟩ (n.render ++ rest) = lexFrom ⟨.number n :: ts, .between⟩ rest := by
  rw [Numeral.render]
  simp only [List.append_assoc]
  rw [lexFrom_whole hn]
  obtain ⟨phase, hphase, h⟩ := lexFrom_fraction hn ts (Numeral.renderExponent n.exponent ++ rest)
  rw [h, lexFrom_exponent hn ts hrest hphase]

/-! ## Values -/

mutual

/-- The tokens of a value. -/
def spelling : Json → List Token
  | .null => [.null]
  | .bool b => [.bool b]
  | .number n => [.number n]
  | .text s => [.text (some s)]
  | .array items => .bracketOpen :: (itemSpelling items ++ [.bracketClose])
  | .object members => .braceOpen :: (memberSpelling members ++ [.braceClose])
  -- such a value is never spelled
  | .unreadable => [.null]

/-- The tokens of the items of an array, with commas between them. -/
def itemSpelling : List Json → List Token
  | [] => []
  | [v] => spelling v
  | v :: w :: rest => spelling v ++ .comma :: itemSpelling (w :: rest)

/-- The tokens of the members of an object, with commas between them. -/
def memberSpelling : List (String × Json) → List Token
  | [] => []
  | [(k, v)] => .text (some k) :: .colon :: spelling v
  | (k, v) :: m :: rest =>
    .text (some k) :: .colon :: (spelling v ++ .comma :: memberSpelling (m :: rest))

end

/-- The characters of a value are read as its tokens where the text closes after them. -/
def IsLexed (v : Json) : Prop :=
  ∀ (ts : List Token) (rest : List Char), Closes rest →
    lexFrom ⟨ts, .between⟩ (chars v ++ rest) = lexFrom ⟨(spelling v).reverse ++ ts, .between⟩ rest

/-- The items of an array, up to its closing bracket. -/
theorem lexFrom_items {items : List Json} (h : ∀ v ∈ items, IsLexed v) (ts : List Token)
    (rest : List Char) :
    lexFrom ⟨ts, .between⟩ (itemChars items ++ ']' :: rest)
      = lexFrom ⟨.bracketClose :: ((itemSpelling items).reverse ++ ts), .between⟩ rest := by
  induction items generalizing ts with
  | nil => rfl
  | cons v items ih =>
    have hv : IsLexed v := h v List.mem_cons_self
    cases items with
    | nil =>
      have hclose : lexStep ⟨(spelling v).reverse ++ ts, .between⟩ ']'
          = some ⟨.bracketClose :: ((spelling v).reverse ++ ts), .between⟩ := rfl
      rw [itemChars, itemSpelling, hv ts _ (closes_cons _ (by simp)), lexFrom_of_step _ hclose]
    | cons w items =>
      have hcomma : lexStep ⟨(spelling v).reverse ++ ts, .between⟩ ','
          = some ⟨.comma :: ((spelling v).reverse ++ ts), .between⟩ := rfl
      rw [itemChars, itemSpelling, List.append_assoc, List.cons_append,
        hv ts _ (closes_cons _ (by simp)), lexFrom_of_step _ hcomma,
        ih (fun u hu => h u (List.mem_cons_of_mem _ hu))]
      simp

/-- The members of an object, up to its closing bracket. -/
theorem lexFrom_members {members : List (String × Json)} (h : ∀ m ∈ members, IsLexed m.2)
    (ts : List Token) (rest : List Char) :
    lexFrom ⟨ts, .between⟩ (memberChars members ++ '\x7d' :: rest)
      = lexFrom ⟨.braceClose :: ((memberSpelling members).reverse ++ ts), .between⟩ rest := by
  induction members generalizing ts with
  | nil => rfl
  | cons m members ih =>
    obtain ⟨k, v⟩ := m
    have hv : IsLexed v := h (k, v) List.mem_cons_self
    have hcolon : lexStep ⟨.text (some k) :: ts, .between⟩ ':'
        = some ⟨.colon :: .text (some k) :: ts, .between⟩ := rfl
    cases members with
    | nil =>
      have hclose : lexStep ⟨(spelling v).reverse ++ .colon :: .text (some k) :: ts, .between⟩
          '\x7d' = some ⟨.braceClose ::
            ((spelling v).reverse ++ .colon :: .text (some k) :: ts), .between⟩ := rfl
      rw [memberChars, memberSpelling, List.append_assoc, lexFrom_quote, List.cons_append,
        lexFrom_of_step _ hcolon, hv _ _ (closes_cons _ (by simp)), lexFrom_of_step _ hclose]
      simp
    | cons m members =>
      have hcomma : lexStep ⟨(spelling v).reverse ++ .colon :: .text (some k) :: ts, .between⟩ ','
          = some ⟨.comma :: ((spelling v).reverse ++ .colon :: .text (some k) :: ts),
            .between⟩ := rfl
      rw [memberChars, memberSpelling, List.append_assoc, lexFrom_quote, List.cons_append,
        lexFrom_of_step _ hcolon, List.append_assoc, List.cons_append,
        hv _ _ (closes_cons _ (by simp)), lexFrom_of_step _ hcomma,
        ih (fun u hu => h u (List.mem_cons_of_mem _ hu))]
      simp

/-- Every spelled value is read as its tokens. -/
theorem isLexed_of_isSpelled {v : Json} (h : v.IsSpelled) : IsLexed v := by
  induction h with
  | null =>
    intro ts rest _
    rfl
  | bool b =>
    intro ts rest _
    cases b <;> rfl
  | number hn =>
    intro ts rest hrest
    exact lexFrom_render hn ts hrest
  | text s =>
    intro ts rest _
    exact lexFrom_quote ts s rest
  | array _ ih =>
    intro ts rest _
    have hopen : lexStep ⟨ts, .between⟩ '[' = some ⟨.bracketOpen :: ts, .between⟩ := rfl
    rw [chars, spelling, List.cons_append, lexFrom_of_step _ hopen, List.append_assoc,
      List.singleton_append, lexFrom_items ih]
    simp
  | object _ ih =>
    intro ts rest _
    have hopen : lexStep ⟨ts, .between⟩ '\x7b' = some ⟨.braceOpen :: ts, .between⟩ := rfl
    rw [chars, spelling, List.cons_append, lexFrom_of_step _ hopen, List.append_assoc,
      List.singleton_append, lexFrom_members ih]
    simp

/-- The characters of a spelled value are read as its tokens. -/
theorem tokens?_chars {v : Json} (h : v.IsSpelled) : tokens? (chars v) = some (spelling v) := by
  have hlex := isLexed_of_isSpelled h [] [] (.inl rfl)
  rw [List.append_nil, List.append_nil, lexFrom_nil] at hlex
  rw [tokens?]
  exact hlex.trans (by simp [LexState.finish])

end Json

end Audience
