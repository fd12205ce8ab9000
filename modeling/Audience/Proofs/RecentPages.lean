import Audience.Proofs.WindowReadBack

/-! # The window forgets

A stored window is read, pushed onto and written again for every page that is recorded. What a page
finds of the pages before it depends on how the stored form is read, but not on where in the window
they are or on what is behind them. So once as many pages have been recorded as the window keeps,
nothing is left of what was stored before, whatever it was.

* **`Window.restored w`** — what is loaded of a window that has been stored.
* **`Window.AgreeUpTo k v w`** — two windows have the same newest pages.
* **`Window.AgreeUpTo.afterPages`** — recording the same pages, they agree on one page more each.
* **`PageModel.processAll texts`** — page texts are processed one after another.
* **`PageModel.store_processAll`** — what is stored then.
* **`window_forgets`** — the last few pages determine the window. -/

namespace Audience

/-! ## Two windows -/

namespace Window

/-- What is loaded of a window that has been stored. -/
def restored (w : Window) : Window := (Store.decoded ofJson? w.toJson.render).getD .empty

/-- The window that is loaded after pages have been recorded one after another. -/
def afterPages (cap : Nat) (ps : List Page) (w : Window) : Window :=
  ps.foldl (fun w p => (w.push p cap).restored) w

/-- The first page is recorded first. -/
theorem afterPages_cons (w : Window) (cap : Nat) (p : Page) (ps : List Page) :
    w.afterPages cap (p :: ps) = (w.push p cap).restored.afterPages cap ps := rfl

/-- The last page is written in front of what the pages before it make of a window. -/
theorem afterPages_concat (w : Window) (cap : Nat) (ps : List Page) (p : Page) :
    w.afterPages cap (ps ++ [p]) = ((w.afterPages cap ps).push p cap).restored := by
  simp [afterPages]

/-- Two windows have the same newest pages. -/
def AgreeUpTo (k : Nat) (v w : Window) : Prop := v.pages.take k = w.pages.take k

variable {v w : Window} {p : Page} {k cap : Nat}

/-- What is loaded is finite. -/
theorem isFinite_restored (w : Window) : w.restored.IsFinite := by
  rw [restored]
  cases hdecoded : Store.decoded ofJson? w.toJson.render with
  | none => exact Kind.page.isSound_fresh
  | some v => exact isFinite_of_decoded hdecoded

/-- A finite page on finite pages is read back with them. -/
theorem IsFinite.restored_push (hw : w.IsFinite) (hp : p.IsFinite) (cap : Nat) :
    (w.push p cap).restored = (w.push p cap).reread := by
  rw [restored, (hw.push hp cap).decode_render, Option.getD_some]

/-- The new page is in the window. -/
theorem mem_push (w : Window) (p : Page) (cap : Nat) : p ∈ (w.push p cap).pages := by
  obtain ⟨n, hn⟩ : ∃ n, max cap 1 = n + 1 := ⟨max cap 1 - 1, by omega⟩
  rw [push, hn, List.take_succ_cons]
  exact List.mem_cons_self

/-- A page that is not finite takes all pages with it. -/
theorem restored_push_of_not_isFinite (w : Window) (hp : ¬p.IsFinite) (cap : Nat) :
    (w.push p cap).restored = .empty := by
  rw [restored, decode_render_of_not_isFinite (w.mem_push p cap) hp, Option.getD_none]

namespace AgreeUpTo

/-- Windows that agree still do with one page more in front. -/
theorem push (h : AgreeUpTo k v w) (p : Page) (cap : Nat) :
    AgreeUpTo (k + 1) (v.push p cap) (w.push p cap) := by
  rw [AgreeUpTo, Window.push, Window.push, List.take_take, List.take_take, Nat.min_comm,
    ← List.take_take, ← List.take_take, List.take_succ_cons, List.take_succ_cons, h]

/-- Windows that agree on as many pages as are kept behind the new one become the same. -/
theorem push_eq (h : AgreeUpTo k v w) (hcap : max cap 1 ≤ k + 1) (p : Page) :
    v.push p cap = w.push p cap := by
  have hpages : ∀ u : Window, (u.push p cap).pages = (u.push p cap).pages.take (k + 1) := by
    intro u
    rw [List.take_of_length_le]
    exact (List.length_take_le _ _).trans hcap
  rw [Window.mk.injEq, hpages v, hpages w]
  exact h.push p cap

/-- What is read of windows that agree agrees. -/
theorem reread (h : AgreeUpTo k v w) : AgreeUpTo k v.reread w.reread := by
  rw [AgreeUpTo, Window.reread, Window.reread, ← List.map_take, ← List.map_take, h]

/-- Recording the same page, loaded windows agree on one page more. -/
theorem restored_push (h : AgreeUpTo k v w) (hv : v.IsFinite) (hw : w.IsFinite) (p : Page)
    (cap : Nat) : AgreeUpTo (k + 1) (v.push p cap).restored (w.push p cap).restored := by
  by_cases hp : p.IsFinite
  · rw [hv.restored_push hp, hw.restored_push hp]
    exact (h.push p cap).reread
  · rw [restored_push_of_not_isFinite v hp, restored_push_of_not_isFinite w hp]
    rfl

/-- Recording the same pages, loaded windows agree on one page more for each. -/
theorem afterPages (h : AgreeUpTo k v w) (hv : v.IsFinite) (hw : w.IsFinite) (cap : Nat)
    (ps : List Page) :
    AgreeUpTo (k + ps.length) (v.afterPages cap ps) (w.afterPages cap ps) := by
  induction ps generalizing k v w with
  | nil => exact h
  | cons p ps ih =>
    rw [afterPages_cons, afterPages_cons, List.length_cons, Nat.add_comm ps.length, ← Nat.add_assoc]
    exact ih (h.restored_push hv hw p cap) (isFinite_restored _) (isFinite_restored _)

end AgreeUpTo

/-- Recording pages keeps windows finite. -/
theorem IsFinite.afterPages (hw : w.IsFinite) (cap : Nat) (ps : List Page) :
    (w.afterPages cap ps).IsFinite := by
  induction ps generalizing w with
  | nil => exact hw
  | cons p ps ih =>
    rw [afterPages_cons]
    exact ih (isFinite_restored _)

/-- What is written does not depend on the first window, nor on pages that have no room in it. -/
theorem push_afterPages_eq (hv : v.IsFinite) (hw : w.IsFinite) (before before' : List Page)
    {ps : List Page} (hcap : max cap 1 ≤ ps.length + 1) (p : Page) :
    (v.afterPages cap (before ++ ps)).push p cap
      = (w.afterPages cap (before' ++ ps)).push p cap := by
  have hstart : AgreeUpTo 0 (v.afterPages cap before) (w.afterPages cap before') := rfl
  have hagree := hstart.afterPages (hv.afterPages cap before) (hw.afterPages cap before') cap ps
  rw [afterPages, afterPages, List.foldl_append, List.foldl_append]
  exact hagree.push_eq (by omega) p

end Window

/-! ## Runs of page texts -/

namespace PageModel

variable {ρ : Type} [Classifier ρ] {m : PageModel ρ} {s : Store} {rows : Dict Cell} {w : Window}

/-- Processes page texts one after another, whether they are recorded or not. -/
def processAll (texts : List String) (r : Running (PageModel ρ) Store) :
    Running (PageModel ρ) Store :=
  texts.foldl (fun r text => (process Store.window text r).state) r

/-- The last text is processed last. -/
theorem processAll_concat (texts : List String) (text : String)
    (r : Running (PageModel ρ) Store) :
    processAll (texts ++ [text]) r = (process Store.window text (processAll texts r)).state := by
  simp [processAll]

/-- A window that has been written is loaded as it is read back. -/
theorem load_written (hs : s.Keeps rows) (w : Window) :
    (Kind.page.load (s.withRows (rows.insert Store.windowKey (.text w.toJson.render)))).result
      = .ok w.restored := by
  rw [Kind.load_eq (hs.withRows _)]
  change Store.settled Window.ofJson? .empty ((rows.insert _ _).get? Store.windowKey) = _
  rw [Dict.get?_insert_self]
  rfl

/-- A run of page texts loads the window that its pages make of the one before. The last page of
them has been written in front of what the others make of it. -/
theorem store_processAll (hlock : m.poisoned = false) (hs : s.Keeps rows)
    (hload : (Kind.page.load s).result = .ok w) (texts : List String) :
    ∃ s' rows', processAll texts ⟨m, s⟩ = ⟨m, s'⟩ ∧ s'.Keeps rows' ∧
      (Kind.page.load s').result
        = .ok (w.afterPages m.config.windowSize (texts.filterMap m.page?)) ∧
      ∀ ps p, texts.filterMap m.page? = ps ++ [p] → s'.cell Store.windowKey
        = some (.text ((w.afterPages m.config.windowSize ps).push p
            m.config.windowSize).toJson.render) := by
  -- the run grows at its end: the last text finds what the texts before it have stored
  induction texts using List.reverseRecOn with
  | nil => exact ⟨s, rows, rfl, hs, hload, fun ps p h => by simp at h⟩
  | append_singleton texts text ih =>
    obtain ⟨s', rows', hrun, hs', hload', hcell⟩ := ih
    rw [processAll_concat, hrun, List.filterMap_append]
    cases hpage : m.page? text with
    | none =>
      rw [state_process_of_page?_eq_none hpage]
      refine ⟨s', rows', rfl, hs', ?_, ?_⟩
      · simpa [hpage] using hload'
      · simpa [hpage] using hcell
    | some p =>
      rw [state_process_of_page? hpage hlock hs' hload']
      refine ⟨_, _, rfl, hs'.withRows _, ?_, ?_⟩
      · rw [load_written hs']
        simp [hpage, Window.afterPages]
      · intro ps q hq
        simp only [List.filterMap_cons, hpage, List.filterMap_nil] at hq
        obtain ⟨rfl, hlast⟩ := List.append_inj' hq rfl
        cases hlast
        rw [(hs'.withRows _).cell, Dict.get?_insert_self]

/-- Any text under the key of the window is loaded, and so is none. -/
theorem exists_load (hs : s.Keeps rows)
    (hcell : ∀ bytes, rows.get? Store.windowKey ≠ some (.blob bytes)) :
    ∃ w : Window, (Kind.page.load s).result = .ok w := by
  rw [Kind.load_eq hs]
  change ∃ w, Store.settled Window.ofJson? .empty (rows.get? Store.windowKey) = .ok w
  cases hkey : rows.get? Store.windowKey with
  | none => exact ⟨.empty, rfl⟩
  | some cell =>
    cases cell with
    | text text => exact ⟨_, rfl⟩
    | blob bytes => exact absurd hkey (hcell bytes)

/-- The strongest segments are those of the window that is loaded. -/
theorem result_top_of_load (hload : (Kind.page.load s).result = .ok w) (ranking : Ranking)
    (config : PageConfig) :
    (top Store.window ranking config s).result = .ok (ranking.rank w config.maxSegments) := by
  have hwindow : (window Store.window s).result = .ok w := hload
  rw [top, Op.result_bind_of_ok hwindow]
  rfl

/-- After a run of page texts the last page has been written in front of what the pages before it
make of the first window, and the strongest segments are those of what is read of it. -/
theorem recorded_of_pages (hlock : m.poisoned = false) (hs : s.Keeps rows)
    (hload : (Kind.page.load s).result = .ok w) {texts : List String} {ps : List Page} {p : Page}
    (hpages : texts.filterMap m.page? = ps ++ [p]) :
    let s' := (processAll texts ⟨m, s⟩).store
    let written := (w.afterPages m.config.windowSize ps).push p m.config.windowSize
    s'.cell Store.windowKey = some (.text written.toJson.render) ∧
      (top Store.window m.ranking m.config s').result
        = .ok (m.ranking.rank written.restored m.config.maxSegments) := by
  obtain ⟨s', rows', hrun, -, hload', hcell⟩ := store_processAll hlock hs hload texts
  rw [hrun]
  rw [hpages] at hload'
  refine ⟨hcell ps p hpages, ?_⟩
  rw [← w.afterPages_concat]
  exact result_top_of_load hload' _ _

/-- A text is recorded as a page by a model if its classifier takes the text. -/
theorem isSome_page? {c : ρ} (hclassifier : m.classifier.content = some c) (text : String) :
    (m.page? text).isSome = (!allBlank text && (Classifier.classify c text).isOk) := by
  rw [page?, hclassifier, Option.bind_some]
  cases allBlank text with
  | true => rfl
  | false => cases Classifier.classify c text <;> rfl

/-- The pages of the last texts are the last pages. -/
theorem filterMap_page?_suffix {recent texts : List String}
    (h : recent <:+ texts.filter (fun text => (m.page? text).isSome)) :
    recent.filterMap m.page? <:+ texts.filterMap m.page? ∧
      (recent.filterMap m.page?).length = recent.length := by
  have hpages : (texts.filter fun text => (m.page? text).isSome).filterMap m.page?
      = texts.filterMap m.page? := by
    rw [List.filterMap_filter]
    refine List.filterMap_congr fun text _ => ?_
    cases m.page? text <;> rfl
  refine ⟨hpages ▸ h.filterMap m.page?, ?_⟩
  rw [List.length_filterMap_eq_countP, List.countP_eq_length]
  exact fun text htext => (List.mem_filter.1 (h.mem htext)).2

end PageModel

/-- Two runs of page texts over the same classifier may start from any windows, from texts that do
not decode and from no window at all: if the last texts that are recorded are the same in both, as
many as the window keeps, then the stored windows are the same, and so are the segments that are
ranked by them. -/
theorem window_forgets {ρ : Type} [Classifier ρ] (m : PageModel ρ) (c : ρ)
    (xs ys recent : List String) (s t : Store) (rows rows' : Dict Cell)
    (hclassifier : m.classifier.content = some c) (hlock : m.poisoned = false)
    (hsize : 1 ≤ m.config.windowSize) (hs : s.Keeps rows) (ht : t.Keeps rows')
    (hrows : ∀ bytes, rows.get? Store.windowKey ≠ some (.blob bytes))
    (hrows' : ∀ bytes, rows'.get? Store.windowKey ≠ some (.blob bytes))
    (hxs : recent <:+
      xs.filter (fun text => !allBlank text && (Classifier.classify c text).isOk))
    (hys : recent <:+
      ys.filter (fun text => !allBlank text && (Classifier.classify c text).isOk))
    (hrecent : recent.length = m.config.windowSize) :
    let s' := (PageModel.processAll xs ⟨m, s⟩).store
    let t' := (PageModel.processAll ys ⟨m, t⟩).store
    ∃ text segments,
      s'.cell Store.windowKey = some (.text text) ∧ t'.cell Store.windowKey = some (.text text) ∧
      (PageModel.top Store.window m.ranking m.config s').result = .ok segments ∧
      (PageModel.top Store.window m.ranking m.config t').result = .ok segments := by
  intro s' t'
  simp only [← PageModel.isSome_page? hclassifier] at hxs hys
  obtain ⟨v, hv⟩ := PageModel.exists_load hs hrows
  obtain ⟨w, hw⟩ := PageModel.exists_load ht hrows'
  -- both runs end with the same pages, the last of which is `p`
  obtain ⟨⟨before, hpages⟩, hlength⟩ := PageModel.filterMap_page?_suffix hxs
  obtain ⟨⟨before', hpages'⟩, -⟩ := PageModel.filterMap_page?_suffix hys
  have hnonempty : recent.filterMap m.page? ≠ [] := by
    rw [← List.length_pos_iff_ne_nil]
    omega
  obtain ⟨ps, p, hps⟩ := (List.eq_nil_or_concat' _).resolve_left hnonempty
  rw [hps, ← List.append_assoc] at hpages hpages'
  have hcap : max m.config.windowSize 1 ≤ ps.length + 1 := by
    rw [hps, List.length_append, List.length_singleton] at hlength
    omega
  have hwritten := Window.push_afterPages_eq (Kind.isSound_of_load hv) (Kind.isSound_of_load hw)
    before before' hcap p
  obtain ⟨hcell, htop⟩ := PageModel.recorded_of_pages hlock hs hv hpages.symm
  obtain ⟨hcell', htop'⟩ := PageModel.recorded_of_pages hlock ht hw hpages'.symm
  rw [hwritten] at hcell htop
  exact ⟨_, _, hcell, hcell', htop, htop'⟩

/-- The window keeps two pages, and each text but one is a segment to the classifier. One run starts
from a text that does not decode, the other from three pages. -/
theorem window_forgets_hats_and_shoes :
    let _ : Classifier Unit := ⟨fun _ text =>
      if text = "noise" then .error (.invalidInput "noise") else .ok (Dict.empty.insert text .one)⟩
    let m : PageModel Unit := ⟨{ Config.default.page with windowSize := 2 },
      ⟨LinearClassifier.name, some ()⟩, .summed, false⟩
    let s := (Store.opened .memory).withRows (Dict.empty.insert Store.windowKey (.text "["))
    let t := (Store.opened .file).withRows (Dict.empty.insert Store.windowKey
      (.text "[\x7b\"sports\":1.0\x7d,\x7b\"bags\":0.5\x7d,\x7b\x7d]"))
    let s' := (PageModel.processAll ["hats", " ", "shoes", "noise"] ⟨m, s⟩).store
    let t' := (PageModel.processAll ["bags", "hats", "noise", "shoes"] ⟨m, t⟩).store
    ∃ text segments,
      s'.cell Store.windowKey = some (.text text) ∧ t'.cell Store.windowKey = some (.text text) ∧
      (PageModel.top Store.window m.ranking m.config s').result = .ok segments ∧
      (PageModel.top Store.window m.ranking m.config t').result = .ok segments := by
  intro _ m s t
  refine window_forgets m () ["hats", " ", "shoes", "noise"] ["bags", "hats", "noise", "shoes"]
    ["hats", "shoes"] s t _ _ rfl rfl (by decide)
    ((Store.keeps_opened (by decide : Medium.memory ≠ .unusable)).withRows _)
    ((Store.keeps_opened (by decide : Medium.file ≠ .unusable)).withRows _) ?_ ?_ ?_ ?_ rfl
  · simp
  · simp
  · exact ⟨[], by decide +kernel⟩
  · exact ⟨["bags"], by decide +kernel⟩

end Audience
