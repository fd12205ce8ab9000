import Audience.Proofs.Lists
import Audience.Proofs.LoadedResources
import Mathlib.Data.List.Dedup

/-! # Which classes a page keeps

The linear classifier has a bias and a weight of every token for each position of its segments, and
makes shares of the sums, one for each position. The page lists the shares by the names of the
segments. Names may be repeated, and then the share of the last position of a name stands for it:
the page has one entry for each position exactly if no name is repeated.

* **`LinearClassifier.total c text i`** — what the tokens of a text add up to at one position.
* **`LinearClassifier.shares c text`** — the share of each position.
* **`LinearClassifier.IsSound.sums_eq`** — the sums position by position.
* **`Dict.perm_ofList_iff`**, **`Dict.size_ofList`** — what is left of a list with repeated keys.
* **`page_has_last_shares`** — when there is a page, and which shares are in it.
* **`page_drops_repeated_class`** — a page without the share of a repeated name. -/

namespace Audience

/-! ## Sums and shares -/

namespace LinearClassifier

variable {c : LinearClassifier} {text : String}

/-- What the bias and the weights of the known tokens of a text add up to at one position. -/
def total (c : LinearClassifier) (text : String) (i : Nat) : Double :=
  (c.knownWeights (tokenize text)).foldl (fun x ws => x.add (ws.getD i .zero))
    (c.biases.getD i .zero)

/-- The share of each position. -/
def shares (c : LinearClassifier) (text : String) : List Double :=
  softmax ((List.range c.segments.length).map (c.total text))

/-- As many shares are made as there are numbers. -/
@[simp] theorem length_softmax (xs : List Double) : (softmax xs).length = xs.length := by
  simp [softmax]

/-- Each position has a share. -/
@[simp] theorem length_shares (c : LinearClassifier) (text : String) :
    (c.shares text).length = c.segments.length := by
  simp [shares]

/-- No token of a text is known exactly if none of them has weights. -/
theorem knownWeights_eq_nil_iff {tokens : List String} :
    c.knownWeights tokens = [] ↔ ∀ t ∈ tokens, c.weights.get? t = none :=
  List.filterMap_eq_nil_iff

/-- The sums of a text are its totals, position by position. -/
theorem IsSound.sums_eq (hc : c.IsSound) (text : String) :
    c.sums (c.knownWeights (tokenize text))
      = (List.range c.segments.length).map (c.total text) := by
  refine foldl_zipWith_eq (fun ws hws => ?_) hc.biases _ _
  obtain ⟨t, _, hget⟩ := List.mem_filterMap.1 hws
  exact hc.weights t ws hget

/-- A text is refused exactly if none of its tokens has weights. -/
theorem classify_eq_error_iff :
    c.classify text = .error (.resource (.noKnownTokens name)) ↔
      ∀ t ∈ tokenize text, c.weights.get? t = none := by
  rw [← knownWeights_eq_nil_iff, classify, ← List.isEmpty_iff]
  cases (c.knownWeights (tokenize text)).isEmpty <;> simp

/-- The page of any other text is made of the names and the shares. -/
theorem IsSound.classify_eq_ok (hc : c.IsSound)
    (hknown : ∃ t ∈ tokenize text, c.weights.get? t ≠ none) :
    c.classify text = .ok (Dict.ofList (c.segments.zip (c.shares text))) := by
  have hsome : (c.knownWeights (tokenize text)).isEmpty = false := by
    rw [List.isEmpty_eq_false_iff, Ne, knownWeights_eq_nil_iff]
    simpa using hknown
  rw [classify]
  simp only [hsome, Bool.false_eq_true, if_false, hc.sums_eq, shares]

end LinearClassifier

/-! ## Lists with repeated keys -/

namespace Dict

variable {α : Type} {es : List (String × α)}

/-- No key of a dictionary is there twice. -/
theorem nodup_keys (d : Dict α) : d.keys.Nodup := by
  refine List.pairwise_map.2 (d.ascending.imp fun hlt heq => ?_)
  rw [heq] at hlt
  exact String.lt_irrefl _ hlt

/-- The keys of a dictionary made of a list are those of the list. -/
theorem mem_keys_ofList {k : String} : k ∈ (ofList es).keys ↔ k ∈ es.map Prod.fst := by
  rw [mem_keys_iff, get?_ofList, ← Option.ne_none_iff_exists', Ne, List.lookup_eq_none_iff]
  simp only [List.mem_reverse, bne_iff_ne, Ne, not_forall, not_not, exists_prop, List.mem_map]
  exact exists_congr fun e => and_congr_right fun _ => eq_comm

/-- A dictionary made of a list has as many entries as the list has different keys. -/
theorem size_ofList (es : List (String × α)) :
    (ofList es).size = (es.map Prod.fst).dedup.length := by
  have hperm : (ofList es).keys.Perm (es.map Prod.fst).dedup := by
    rw [List.perm_ext_iff_of_nodup (nodup_keys _) (List.nodup_dedup _)]
    intro k
    rw [mem_keys_ofList, List.mem_dedup]
  rw [size, ← hperm.length_eq, keys, List.length_map]

/-- A list has no more entries than a dictionary made of it exactly if no key is repeated. -/
theorem size_ofList_eq_length_iff :
    (ofList es).size = es.length ↔ (es.map Prod.fst).Nodup := by
  rw [size_ofList, ← List.length_map Prod.fst, (List.dedup_sublist _).length_eq,
    List.dedup_eq_self]

/-- A dictionary has the entries of the list that it is made of exactly if no key is repeated. -/
theorem perm_ofList_iff : (ofList es).entries.Perm es ↔ (es.map Prod.fst).Nodup := by
  constructor
  · intro hperm
    exact (hperm.map Prod.fst).nodup_iff.1 (nodup_keys (ofList es))
  · intro hnodup
    -- all entries are of the list, and there are as many of them
    have hsub : (ofList es).entries ⊆ es := fun e he => mem_of_mem_ofList he
    have hsubperm := List.subperm_of_subset (nodup_of_ascending (ofList es).ascending) hsub
    exact hsubperm.perm_of_length_le (Nat.le_of_eq (size_ofList_eq_length_iff.2 hnodup).symm)

end Dict

/-- Of a classifier that has been loaded: a text is refused exactly if none of its tokens has
weights. Any other text has a page. There is a bias and a share for each position of the segments,
and each name stands in the page with the share of its last position. So there are as many entries
as different names, and they are those of all positions exactly if no name is repeated. -/
theorem page_has_last_shares {json : String} {c : LinearClassifier}
    (hc : LinearClassifier.load json = .ok c) (text : String) :
    (c.classify text = .error (.resource (.noKnownTokens LinearClassifier.name)) ↔
      ∀ t ∈ tokenize text, t ∉ c.weights.keys) ∧
    ((∃ t ∈ tokenize text, t ∈ c.weights.keys) → ∃ p, c.classify text = .ok p ∧
      c.biases.length = c.segments.length ∧ (c.shares text).length = c.segments.length ∧
      (∀ g x, p.get? g = some x ↔ ∃ before after, c.segments.zip (c.shares text)
        = before ++ (g, x) :: after ∧ ∀ e ∈ after, e.1 ≠ g) ∧
      p.size = c.segments.dedup.length ∧ (p.size = c.segments.length ↔ c.segments.Nodup) ∧
      (p.entries.Perm (c.segments.zip (c.shares text)) ↔ c.segments.Nodup)) := by
  have hsound := (LinearClassifier.load_eq_ok_iff.1 hc).2
  have hunknown : ∀ t, t ∉ c.weights.keys ↔ c.weights.get? t = none := by
    intro t
    rw [Dict.mem_keys_iff, ← Option.ne_none_iff_exists', not_not]
  have hnames : (c.segments.zip (c.shares text)).map Prod.fst = c.segments :=
    List.map_fst_zip (Nat.le_of_eq (LinearClassifier.length_shares c text).symm)
  have hlength : (c.segments.zip (c.shares text)).length = c.segments.length := by
    rw [← List.length_map Prod.fst, hnames]
  constructor
  · simp only [LinearClassifier.classify_eq_error_iff, hunknown]
  · rintro ⟨t, ht, hknown⟩
    refine ⟨_, hsound.classify_eq_ok ⟨t, ht, fun hnone => (hunknown t).2 hnone hknown⟩,
      hsound.biases, LinearClassifier.length_shares c text,
      fun g x => Dict.get?_ofList_eq_some_iff, ?_, ?_, ?_⟩
    · rw [Dict.size_ofList, hnames]
    · rw [← hlength, Dict.size_ofList_eq_length_iff, hnames]
    · rw [Dict.perm_ofList_iff, hnames]

/-- Two names and one known token: a text without it is refused, and one with it has an entry for
each name. -/
theorem page_has_last_shares_goal :
    let json := "\x7b\"version\":1,\"segments\":[\"travel\",\"sports\"],"
      ++ "\"biases\":[0.0,0.5],\"weights\":\x7b\"goal\":[1.0,2.0]\x7d\x7d"
    ∃ c, LinearClassifier.load json = .ok c ∧
      c.classify "Fish!" = .error (.resource (.noKnownTokens LinearClassifier.name)) ∧
      ∃ p, c.classify "A goal, a GOAL" = .ok p ∧ p.size = 2 ∧
        p.entries.Perm (["travel", "sports"].zip (c.shares "A goal, a GOAL")) := by
  intro json
  have hparts : (LinearClassifier.load json).map (fun c => (c.segments, c.weights.keys))
      = .ok (["travel", "sports"], ["goal"]) := by decide +kernel
  obtain ⟨c, hc, hparts⟩ := exists_of_map_eq_ok hparts
  obtain ⟨hsegments, hkeys⟩ := Prod.mk.inj hparts
  have hfish : tokenize "Fish!" = ["fish"] := by decide +kernel
  have hgoal : "goal" ∈ tokenize "A goal, a GOAL" := by decide +kernel
  have hnodup : c.segments.Nodup := by
    rw [hsegments]
    decide
  obtain ⟨p, hp, -, -, -, -, hsize, hperm⟩ :=
    (page_has_last_shares hc "A goal, a GOAL").2 ⟨"goal", hgoal, by rw [hkeys]; decide⟩
  refine ⟨c, hc, (page_has_last_shares hc "Fish!").1.2 ?_, p, hp, ?_, ?_⟩
  · rw [hfish, hkeys]
    decide
  · rw [hsize.2 hnodup, hsegments]
    rfl
  · rw [← hsegments]
    exact hperm.2 hnodup

/-- A name that is given twice passes the check, and the page of a text has one entry for its two
positions. -/
theorem page_drops_repeated_class :
    let json := "\x7b\"version\":1,\"segments\":[\"sports\",\"sports\"],"
      ++ "\"biases\":[0.0,0.0],\"weights\":\x7b\"goal\":[1.0,2.0]\x7d\x7d"
    ∃ c p, LinearClassifier.load json = .ok c ∧ c.segments = ["sports", "sports"] ∧
      c.biases.length = 2 ∧ c.classify "goal" = .ok p ∧ p.keys = ["sports"] := by
  intro json
  have hparts : (LinearClassifier.load json).map (fun c =>
      (c.segments, c.biases.length, (c.classify "goal").map Dict.keys))
      = .ok (["sports", "sports"], 2, .ok ["sports"]) := by decide +kernel
  obtain ⟨c, hc, hparts⟩ := exists_of_map_eq_ok hparts
  obtain ⟨hsegments, hbiases, hpage⟩ := by simpa only [Prod.mk.injEq] using hparts
  obtain ⟨p, hp, hkeys⟩ := exists_of_map_eq_ok hpage
  exact ⟨c, p, hc, hsegments, hbiases, hp, hkeys⟩

end Audience
