import Audience.Json.Parser
import Audience.Proofs.JsonTokens

/-! # Reading a written value back

The tokens of a value build that value, so reading its text gives the value back. The statements are
about a value with the tokens that follow it and with the arrays and objects that are open around
it.

* **`Json.parse?_render`** — the text of a spelled value is read as that value. -/

namespace Audience.Json

/-- The value of tokens that are read on from a state of the builder. -/
def buildFrom (s : Building) (ts : List Token) : Option Json :=
  (ts.foldlM buildStep s).bind Building.finish

/-- After a step the rest is read from the state that it leads to. -/
theorem buildFrom_of_step {s s' : Building} {t : Token} (ts : List Token)
    (h : buildStep s t = some s') : buildFrom s (t :: ts) = buildFrom s' ts := by
  rw [buildFrom, List.foldlM_cons, h, Option.bind_eq_bind, Option.bind_some]
  rfl

/-- The tokens of a value deliver it wherever a value may stand. -/
def IsBuilt (v : Json) : Prop :=
  ∀ (stack : List Frame) (rest : List Token),
    buildFrom ⟨stack, .value⟩ (spelling v ++ rest) = buildFrom (deliver stack v) rest

/-! ## Arrays -/

/-- The first item of an array is read like any other, since no value starts with a closing
bracket. -/
theorem buildFrom_opened_items (v : Json) (items : List Json) (stack : List Frame)
    (rest : List Token) :
    buildFrom ⟨.items [] :: stack, .opened⟩ (itemSpelling (v :: items) ++ rest)
      = buildFrom ⟨.items [] :: stack, .value⟩ (itemSpelling (v :: items) ++ rest) := by
  cases items <;> rw [itemSpelling] <;> cases v <;> rw [spelling] <;> rfl

/-- The items of an array join those before them, and the array is complete. -/
theorem buildFrom_items {v : Json} {items : List Json} (h : ∀ w ∈ v :: items, IsBuilt w)
    (before : List Json) (stack : List Frame) (rest : List Token) :
    buildFrom ⟨.items before :: stack, .value⟩ (itemSpelling (v :: items) ++ .bracketClose :: rest)
      = buildFrom (deliver stack (.array (before.reverse ++ v :: items))) rest := by
  induction items generalizing v before with
  | nil =>
    have hclose : buildStep ⟨.items (v :: before) :: stack, .next⟩ .bracketClose
        = some (deliver stack (.array (v :: before).reverse)) := rfl
    rw [itemSpelling, h v List.mem_cons_self, deliver, buildFrom_of_step _ hclose,
      List.reverse_cons]
  | cons w items ih =>
    have hcomma : buildStep ⟨.items (v :: before) :: stack, .next⟩ .comma
        = some ⟨.items (v :: before) :: stack, .value⟩ := rfl
    rw [itemSpelling, List.append_assoc, h v List.mem_cons_self, List.cons_append, deliver,
      buildFrom_of_step _ hcomma, ih (fun u hu => h u (List.mem_cons_of_mem _ hu)),
      List.reverse_cons, List.append_assoc, List.singleton_append]

/-! ## Objects -/

/-- Members as an open object keeps them: the last one first. -/
def pending (members : List (String × Json)) : List (Option String × Json) :=
  (members.map (fun m => (some m.1, m.2))).reverse

/-- An object closes with its members in order. -/
theorem closeObject_pending (members : List (String × Json)) :
    closeObject (pending members) = .object members := by
  have hall : (members.map (fun m => (some m.1, m.2))).mapM
      (fun (m : Option String × Json) => m.1.map (fun k => (k, m.2))) = some members := by
    induction members with
    | nil => rfl
    | cons m members ih => simp [ih]
  rw [closeObject, pending, List.reverse_reverse, hall]

/-- A member joins those before it. -/
theorem buildFrom_member (k : String) {v : Json} (hv : IsBuilt v) (before : List (String × Json))
    (stack : List Frame) (rest : List Token) :
    buildFrom ⟨.members (pending before) :: stack, .key⟩
        (.text (some k) :: .colon :: (spelling v ++ rest))
      = buildFrom ⟨.members (pending (before ++ [(k, v)])) :: stack, .next⟩ rest := by
  have hkey : buildStep ⟨.members (pending before) :: stack, .key⟩ (.text (some k))
      = some ⟨.member (pending before) (some k) :: stack, .colon⟩ := rfl
  have hcolon : buildStep ⟨.member (pending before) (some k) :: stack, .colon⟩ .colon
      = some ⟨.member (pending before) (some k) :: stack, .value⟩ := rfl
  have hpending : (some k, v) :: pending before = pending (before ++ [(k, v)]) := by
    simp [pending]
  rw [buildFrom_of_step _ hkey, buildFrom_of_step _ hcolon, hv, deliver, hpending]

/-- The first member of an object is read like any other. -/
theorem buildFrom_opened_members (m : String × Json) (members : List (String × Json))
    (stack : List Frame) (rest : List Token) :
    buildFrom ⟨.members [] :: stack, .opened⟩ (memberSpelling (m :: members) ++ rest)
      = buildFrom ⟨.members [] :: stack, .key⟩ (memberSpelling (m :: members) ++ rest) := by
  cases members <;> rfl

/-- The members of an object join those before them, and the object is complete. -/
theorem buildFrom_members {m : String × Json} {members : List (String × Json)}
    (h : ∀ n ∈ m :: members, IsBuilt n.2) (before : List (String × Json)) (stack : List Frame)
    (rest : List Token) :
    buildFrom ⟨.members (pending before) :: stack, .key⟩
        (memberSpelling (m :: members) ++ .braceClose :: rest)
      = buildFrom (deliver stack (.object (before ++ m :: members))) rest := by
  induction members generalizing m before with
  | nil =>
    obtain ⟨k, v⟩ := m
    have hclose : buildStep ⟨.members (pending (before ++ [(k, v)])) :: stack, .next⟩ .braceClose
        = some (deliver stack (closeObject (pending (before ++ [(k, v)])))) := rfl
    rw [memberSpelling, List.cons_append, List.cons_append,
      buildFrom_member k (h (k, v) List.mem_cons_self), buildFrom_of_step _ hclose,
      closeObject_pending]
  | cons n members ih =>
    obtain ⟨k, v⟩ := m
    have hcomma : buildStep ⟨.members (pending (before ++ [(k, v)])) :: stack, .next⟩ .comma
        = some ⟨.members (pending (before ++ [(k, v)])) :: stack, .key⟩ := rfl
    rw [memberSpelling, List.cons_append, List.cons_append, List.append_assoc,
      buildFrom_member k (h (k, v) List.mem_cons_self), List.cons_append,
      buildFrom_of_step _ hcomma, ih (fun u hu => h u (List.mem_cons_of_mem _ hu)),
      List.append_assoc, List.singleton_append]

/-! ## Values -/

/-- Every spelled value is built by its tokens. -/
theorem isBuilt_of_isSpelled {v : Json} (h : v.IsSpelled) : IsBuilt v := by
  induction h with
  | null | bool | number | text =>
    intro stack rest
    rw [spelling]
    rfl
  | @array items _ ih =>
    intro stack rest
    have hopen : buildStep ⟨stack, .value⟩ .bracketOpen = some ⟨.items [] :: stack, .opened⟩ := rfl
    rw [spelling, List.cons_append, buildFrom_of_step _ hopen, List.append_assoc,
      List.singleton_append]
    -- an empty array closes right after it has opened
    cases items with
    | nil => rfl
    | cons v items =>
      rw [buildFrom_opened_items]
      exact buildFrom_items ih [] stack rest
  | @object members _ ih =>
    intro stack rest
    have hopen : buildStep ⟨stack, .value⟩ .braceOpen = some ⟨.members [] :: stack, .opened⟩ := rfl
    rw [spelling, List.cons_append, buildFrom_of_step _ hopen, List.append_assoc,
      List.singleton_append]
    -- and so does an empty object
    cases members with
    | nil => rfl
    | cons m members =>
      rw [buildFrom_opened_members]
      exact buildFrom_members ih [] stack rest

/-- Reading the text of a spelled value gives the value back. -/
theorem parse?_render {v : Json} (h : v.IsSpelled) : parse? v.render = some v := by
  have hbuild := isBuilt_of_isSpelled h [] []
  rw [List.append_nil] at hbuild
  rw [parse?, render, String.toList_ofList, tokens?_chars h, Option.bind_some, build?]
  exact hbuild

end Audience.Json
