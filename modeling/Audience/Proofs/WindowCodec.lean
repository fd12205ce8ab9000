import Audience.Page.Window
import Audience.Proofs.HistoryCodec
import Audience.Proofs.NumberText

/-! # Reading a stored window back

The stored text of a window decodes as long as all of its probabilities are finite: infinities and
NaNs are written as null. What is decoded has as many pages as were stored, and all probabilities of
it are finite.

* **`Window.IsFinite w`** — all probabilities of a window are finite.
* **`Window.length_of_decoded`** — a stored window is read with as many pages.
* **`Window.IsFinite.exists_decode`** — the stored text of a window decodes.
* **`Window.isFinite_of_decoded`** — what is decoded can be stored again. -/

namespace Audience

/-! ## Probabilities -/

/-- A number that is not finite is written as null. -/
theorem Json.ofDouble_of_not_isFinite {x : Double} (h : x.isFinite = false) :
    ofDouble x = .null := by
  rw [ofDouble, Double.numeral?, h]
  rfl

/-- Every number can be spelled out. -/
theorem Json.isSpelled_ofDouble (x : Double) : (ofDouble x).IsSpelled := by
  cases hfinite : x.isFinite with
  | true =>
    obtain ⟨n, _, hnumeral, hspelled, _, _⟩ := Double.exists_numeral? hfinite
    rw [ofDouble, hnumeral]
    exact .number hspelled
  | false =>
    rw [ofDouble_of_not_isFinite hfinite]
    exact .null

/-- A finite number is read back, though perhaps not as itself. -/
theorem Json.exists_double?_ofDouble {x : Double} (h : x.isFinite = true) :
    ∃ y, double? (ofDouble x) = some y := by
  obtain ⟨n, y, hnumeral, _, hy, _⟩ := Double.exists_numeral? h
  rw [ofDouble, hnumeral]
  exact ⟨y, hy⟩

/-- A number that is read is finite. -/
theorem Json.isFinite_of_double? {v : Json} {x : Double} (h : v.double? = some x) :
    x.isFinite = true := by
  cases v with
  | number n => exact Numeral.isFinite_of_double? h
  | null | bool | text | array | object | unreadable => cases h

/-! ## Pages -/

namespace Page

/-- All probabilities of a page are finite. -/
def IsFinite (p : Page) : Prop := ∀ e ∈ p.entries, e.2.isFinite = true

/-- A page can be spelled out. -/
theorem isSpelled_pageJson (p : Page) : (Window.pageJson p).IsSpelled := by
  refine .object fun m hm => ?_
  obtain ⟨e, _, rfl⟩ := List.mem_map.1 hm
  exact Json.isSpelled_ofDouble e.2

/-- A finite page is read back, though perhaps not as itself. -/
theorem IsFinite.exists_dict? {p : Page} (h : p.IsFinite) :
    ∃ q, Json.dict? Json.double? (Window.pageJson p) = some q := by
  have hentry : ∀ m ∈ p.entries.map (fun e => (e.1, Json.ofDouble e.2)),
      ∃ q, (Json.double? m.2).map (fun v => (m.1, v)) = some q := by
    intro m hm
    obtain ⟨e, he, rfl⟩ := List.mem_map.1 hm
    obtain ⟨y, hy⟩ := Json.exists_double?_ofDouble (h e he)
    exact ⟨(e.1, y), by rw [hy, Option.map_some]⟩
  obtain ⟨pairs, hpairs⟩ := exists_mapM hentry
  exact ⟨Dict.ofList pairs, by rw [Window.pageJson, Json.dict?, hpairs, Option.map_some]⟩

/-- A page that is read is finite. -/
theorem isFinite_of_dict? {v : Json} {p : Page} (h : Json.dict? Json.double? v = some p) :
    p.IsFinite := by
  intro e he
  cases v with
  | object members =>
    obtain ⟨pairs, hpairs, rfl⟩ := Option.map_eq_some_iff.1 h
    obtain ⟨m, _, hm⟩ := exists_of_mem_mapM hpairs (Dict.mem_of_mem_ofList he)
    obtain ⟨x, hx, rfl⟩ := Option.map_eq_some_iff.1 hm
    exact Json.isFinite_of_double? hx
  | null | bool | number | text | array | unreadable => cases h

end Page

/-! ## Windows -/

namespace Window

/-- All probabilities of a window are finite. -/
def IsFinite (w : Window) : Prop := ∀ p ∈ w.pages, Page.IsFinite p

/-- The stored form of a window can be spelled out. -/
theorem isSpelled_toJson (w : Window) : w.toJson.IsSpelled := by
  refine .array fun v hv => ?_
  obtain ⟨p, _, rfl⟩ := List.mem_map.1 hv
  exact Page.isSpelled_pageJson p

/-- A stored window is read with as many pages as it has. -/
theorem length_of_decoded {w w' : Window}
    (h : (Json.parse? w.toJson.render).bind ofJson? = some w') :
    w'.pages.length = w.pages.length := by
  rw [Json.parse?_render w.isSpelled_toJson, Option.bind_some] at h
  obtain ⟨pages, hpages, rfl⟩ := Option.map_eq_some_iff.1 h
  rw [length_of_mapM hpages, List.length_map]

/-- The stored text of a finite window decodes. -/
theorem IsFinite.exists_decode {w : Window} (h : w.IsFinite) :
    ∃ w', (Json.parse? w.toJson.render).bind ofJson? = some w' := by
  have hpage : ∀ v ∈ w.pages.map pageJson, ∃ q, Json.dict? Json.double? v = some q := by
    intro v hv
    obtain ⟨p, hp, rfl⟩ := List.mem_map.1 hv
    exact (h p hp).exists_dict?
  obtain ⟨pages, hpages⟩ := exists_mapM hpage
  refine ⟨⟨pages⟩, ?_⟩
  rw [Json.parse?_render w.isSpelled_toJson, Option.bind_some, ofJson?, toJson, Json.list?, hpages,
    Option.map_some]

/-- What a text decodes to is finite. -/
theorem isFinite_of_decoded {text : String} {w : Window}
    (h : (Json.parse? text).bind ofJson? = some w) : w.IsFinite := by
  obtain ⟨v, _, hread⟩ := Option.bind_eq_some_iff.1 h
  obtain ⟨pages, hpages, rfl⟩ := Option.map_eq_some_iff.1 hread
  intro p hp
  cases v with
  | array items =>
    obtain ⟨item, _, hitem⟩ := exists_of_mem_mapM hpages hp
    exact Page.isFinite_of_dict? hitem
  | null | bool | number | text | object | unreadable => cases hpages

/-- A window stays finite after one more finite page. -/
theorem IsFinite.push {w : Window} (h : w.IsFinite) {p : Page} (hp : Page.IsFinite p) (cap : Nat) :
    (w.push p cap).IsFinite := by
  intro q hq
  rcases List.mem_cons.1 (List.mem_of_mem_take hq) with rfl | hq
  · exact hp
  · exact h q hq

end Window

end Audience
