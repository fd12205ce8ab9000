import Audience.Time.Instant

/-! # Trails

The trail of a segment lists when signals for it occurred and how much each weighs, the newest
first. A trail is never empty, and a new entry goes in front of those that are not newer.

* **`Trail.insert t e cap`** — a trail with one more entry, cut to a number of entries.
* **`Trail.ofList? es`** — the trail of entries in any order. -/

namespace Audience

/-- One observation of a segment. -/
structure Entry where
  time : Instant
  weight : UInt16
  deriving DecidableEq, Repr

/-- Whether an entry may stand before another one: it is not older. -/
def Entry.precedes (a b : Entry) : Bool := b.time.le a.time

/-- Precedence is transitive. -/
theorem Entry.precedes_trans (a b c : Entry) (h₁ : a.precedes b = true) (h₂ : b.precedes c = true) :
    a.precedes c = true :=
  Instant.le_trans h₂ h₁

/-- Of two entries one may stand before the other. -/
theorem Entry.precedes_total (a b : Entry) : (a.precedes b || b.precedes a) = true :=
  Instant.le_total b.time a.time

/-- Entries of which none is older than a later one. -/
def NewestFirst (es : List Entry) : Prop := es.Pairwise (fun a b => a.precedes b = true)

/-- Puts an entry in front of the first one that is not newer. -/
def place (e : Entry) : List Entry → List Entry
  | [] => [e]
  | x :: xs => if x.time.le e.time then e :: x :: xs else x :: place e xs

/-- The entries after `place` are the new one and the old ones. -/
theorem mem_place {e y : Entry} {es : List Entry} : y ∈ place e es ↔ y = e ∨ y ∈ es := by
  induction es with
  | nil => simp [place]
  | cons x xs ih =>
    rw [place]
    split
    · simp
    · simp only [List.mem_cons, ih]
      grind

/-- `place` adds one entry. -/
@[simp] theorem length_place (e : Entry) (es : List Entry) :
    (place e es).length = es.length + 1 := by
  induction es with
  | nil => rfl
  | cons x xs ih =>
    rw [place]
    split <;> simp [ih]

/-- `place` keeps entries newest first. -/
theorem newestFirst_place (e : Entry) {es : List Entry} (h : NewestFirst es) :
    NewestFirst (place e es) := by
  induction es with
  | nil => exact List.pairwise_singleton _ _
  | cons x xs ih =>
    have hx := List.pairwise_cons.1 h
    rw [place]
    split
    · rename_i hle
      refine List.pairwise_cons.2 ⟨fun y hy => ?_, h⟩
      rcases List.mem_cons.1 hy with rfl | hy
      · exact hle
      · exact Instant.le_trans (hx.1 y hy) hle
    · rename_i hle
      refine List.pairwise_cons.2 ⟨fun y hy => ?_, ih hx.2⟩
      rcases mem_place.1 hy with rfl | hy
      · have := Instant.le_total x.time y.time
        simpa [Entry.precedes, hle] using this
      · exact hx.1 y hy

/-- The observations of one segment, newest first. -/
structure Trail where
  entries : List Entry
  newestFirst : NewestFirst entries
  nonEmpty : entries ≠ []

namespace Trail

/-- Trails with the same entries are equal. -/
@[ext] theorem ext {s t : Trail} (h : s.entries = t.entries) : s = t := by
  cases s; cases t; simp_all

/-- The trail of one entry. -/
def single (e : Entry) : Trail := ⟨[e], List.pairwise_singleton _ _, by simp⟩

/-- A trail with one more entry, of which the newest `cap` stay, and at least one. -/
def insert (t : Trail) (e : Entry) (cap : Nat) : Trail :=
  ⟨(place e t.entries).take (max cap 1), (newestFirst_place e t.newestFirst).take, by
    intro h
    have := congrArg List.length h
    simp only [List.length_take, length_place, List.length_nil] at this
    omega⟩

/-- The entries of a list, newest first; entries of one time keep their order. -/
def sorted (es : List Entry) : List Entry := es.mergeSort Entry.precedes

/-- Sorted entries are newest first. -/
theorem newestFirst_sorted (es : List Entry) : NewestFirst (sorted es) :=
  List.pairwise_mergeSort Entry.precedes_trans Entry.precedes_total es

/-- The trail of entries in any order, unless there are none. -/
def ofList? (es : List Entry) : Option Trail :=
  if h : es = [] then none
  else
    some ⟨sorted es, newestFirst_sorted es, by
      intro hs
      have := (List.mergeSort_perm es Entry.precedes).length_eq
      rw [show es.mergeSort Entry.precedes = [] from hs] at this
      exact h (List.eq_nil_of_length_eq_zero this.symm)⟩

end Trail

end Audience
