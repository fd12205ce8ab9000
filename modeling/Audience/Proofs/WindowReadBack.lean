import Audience.Proofs.SpoiledState

/-! # What the next page finds of a stored window

A page text that has been processed is in front of the stored window when the window is loaded
again, as long as all of its probabilities are finite. Its segments are those that the classifier
gave. The pages behind it are read once more, each number from the text that it was written as,
which may move it by its last digit. One probability that is not finite makes the whole window
unreadable.

* **`Double.reread x`**, **`Page.reread p`**, **`Window.reread w`** — how a stored form is read.
* **`Window.decode_render`** — a stored window decodes exactly if it is finite.
* **`PageModel.process_eq_ok`** — what a page text that is processed leaves behind.
* **`window_after_process`** — what is loaded after a page text has been processed. -/

namespace Audience

/-! ## Reading back -/

/-- What the stored form of a number is read as. -/
def Double.reread (x : Double) : Double := (Json.double? (Json.ofDouble x)).getD x

/-- A finite number is read, and no other. -/
theorem Json.double?_ofDouble (x : Double) :
    double? (ofDouble x) = if x.isFinite then some x.reread else none := by
  cases hfinite : x.isFinite with
  | true =>
    obtain ⟨y, hy⟩ := exists_double?_ofDouble hfinite
    simp [Double.reread, hy]
  | false =>
    rw [ofDouble_of_not_isFinite hfinite]
    rfl

namespace Page

variable {p : Page}

/-- What the stored form of a page is read as. -/
def reread (p : Page) : Page := p.mapValues Double.reread

/-- The stored form of a finite page is read. -/
theorem IsFinite.dict?_pageJson (h : p.IsFinite) :
    Json.dict? Json.double? (Window.pageJson p) = some p.reread := by
  have hentry : ∀ e ∈ p.entries, (Json.double? (Json.ofDouble e.2)).map (fun v => (e.1, v))
      = some (e.1, e.2.reread) := by
    intro e he
    rw [Json.double?_ofDouble, h e he, if_pos rfl, Option.map_some]
  -- segments are written in ascending order, so each is put back behind the ones before it
  have hdict : Dict.ofList (p.entries.map (fun e => (e.1, e.2.reread))) = p.reread :=
    Dict.ofList_entries p.reread
  rw [Window.pageJson, Json.dict?, mapM_map_some hentry, Option.map_some, hdict]

/-- A page with a number that is not finite is not read. -/
theorem dict?_pageJson_of_not_isFinite (h : ¬p.IsFinite) :
    Json.dict? Json.double? (Window.pageJson p) = none := by
  cases hread : Json.dict? Json.double? (Window.pageJson p) with
  | none => rfl
  | some q =>
    refine absurd (fun e he => ?_) h
    rw [Window.pageJson, Json.dict?, Option.map_eq_some_iff] at hread
    obtain ⟨pairs, hpairs, -⟩ := hread
    obtain ⟨pair, hpair⟩ := exists_of_mapM hpairs (List.mem_map_of_mem he)
    obtain ⟨y, hy, -⟩ := Option.map_eq_some_iff.1 hpair
    rw [Json.double?_ofDouble] at hy
    exact of_not_not fun hinfinite => by rw [if_neg hinfinite] at hy; cases hy

end Page

namespace Window

variable {w : Window}

/-- What the stored form of a window is read as. -/
def reread (w : Window) : Window := ⟨w.pages.map Page.reread⟩

/-- The stored text of a finite window decodes. -/
theorem IsFinite.decode_render (h : w.IsFinite) :
    Store.decoded ofJson? w.toJson.render = some w.reread := by
  have hpages : (w.pages.map pageJson).mapM (Json.dict? Json.double?)
      = some (w.pages.map Page.reread) :=
    mapM_map_some fun p hp => (h p hp).dict?_pageJson
  rw [Store.decoded, Json.parse?_render w.isSpelled_toJson, Option.bind_some, ofJson?, toJson,
    Json.list?, hpages, Option.map_some, reread]

/-- The stored text of a window with a number that is not finite does not decode. -/
theorem decode_render_of_not_isFinite {p : Page} (hp : p ∈ w.pages) (hinfinite : ¬p.IsFinite) :
    Store.decoded ofJson? w.toJson.render = none := by
  rw [Store.decoded, Json.parse?_render w.isSpelled_toJson, Option.bind_some, ofJson?, toJson,
    Option.map_eq_none_iff, Json.list?]
  cases hread : (w.pages.map pageJson).mapM (Json.dict? Json.double?) with
  | none => rfl
  | some pages =>
    obtain ⟨q, hq⟩ := exists_of_mapM hread (List.mem_map_of_mem hp)
    rw [Page.dict?_pageJson_of_not_isFinite hinfinite] at hq
    cases hq

end Window

/-- What is loaded can be stored and decoded. -/
theorem Kind.isSound_of_load {k : Kind} {s : Store} {v : k.Value}
    (h : (k.load s).result = .ok v) : k.IsSound v :=
  property_of_load k.isSound_fresh (fun _ _ => isSound_of_decoded) h

/-! ## Processing -/

section Process

variable {ρ : Type} [Classifier ρ] {m : PageModel ρ} {c : ρ} {text : String} {s : Store}

/-- A page text that is processed has been classified, and the lock was not poisoned. -/
theorem PageModel.exists_page_of_process (hclassifier : m.classifier.content = some c)
    (htext : allBlank text = false)
    (hok : (process Store.window text ⟨m, s⟩).result = .ok ()) :
    m.poisoned = false ∧ ∃ p, Classifier.classify c text = .ok p := by
  rw [process] at hok
  simp only [htext, Bool.false_eq_true, if_false, Op.bind_ofModel, hclassifier] at hok
  cases hclassify : Classifier.classify c text with
  | error e =>
    rw [hclassify] at hok
    cases hok
  | ok p =>
    rw [hclassify, Op.bind_ofExcept_ok, Op.bind_ofModel] at hok
    cases hpoisoned : m.poisoned with
    | false => exact ⟨rfl, p, rfl⟩
    | true =>
      have hrefused : Op.underLock PageModel.poisoned
          (fun m : PageModel ρ => { m with poisoned := true })
          (update Store.window m.config.windowSize p) ⟨m, s⟩
          = ⟨.error (.error (.storage (.lockPoisoned Op.poisonedDetails))), ⟨m, s⟩, []⟩ := by
        simp [Op.underLock, hpoisoned]
      rw [Op.bind_error hrefused] at hok
      cases hok

/-- A page text that is processed puts its page in front of the window that was loaded. -/
theorem PageModel.state_process_of_ok {w : Window} (hclassifier : m.classifier.content = some c)
    (htext : allBlank text = false) (hload : (Kind.page.load s).result = .ok w)
    (hok : (process Store.window text ⟨m, s⟩).result = .ok ()) :
    ∃ p rows, Classifier.classify c text = .ok p ∧ s.Keeps rows ∧
      (process Store.window text ⟨m, s⟩).state = ⟨m, s.withRows (rows.insert Store.windowKey
        (.text (w.push p m.config.windowSize).toJson.render))⟩ := by
  obtain ⟨hsound, p, hclassify⟩ := exists_page_of_process hclassifier htext hok
  obtain ⟨⟨rows, hs⟩, -⟩ := (Kind.page.load_cases s).2 w hload
  refine ⟨p, rows, hclassify, hs, ?_⟩
  refine state_process_of_page? ?_ hsound hs hload
  simp [page?, htext, hclassifier, hclassify, Except.toOption]

/-- What is under the key of the window is loaded. -/
theorem Store.window_load {rows : Dict Cell} (hs : s.Keeps rows) (w : Window) :
    (Store.window.load
        (s.withRows (rows.insert windowKey (.text w.toJson.render)))).result
      = reading windowKey Window.ofJson? .empty (some (.text w.toJson.render)) := by
  have hload := (hs.withRows (rows.insert windowKey (.text w.toJson.render))).load windowKey
    Window.ofJson? Window.toJson .empty
  rw [Dict.get?_insert_self] at hload
  exact congrArg Outcome.result hload

end Process

/-- After a page text has been processed, the window is loaded again if all probabilities of the
page are finite: the page is in front of it with the segments that it was given, and behind it is
what the stored form of the earlier pages is read as. Otherwise no part of the window is loaded. -/
theorem window_after_process {ρ : Type} [Classifier ρ] (m : PageModel ρ) (c : ρ) (text : String)
    (s : Store) (w : Window) (hclassifier : m.classifier.content = some c)
    (htext : allBlank text = false) (hsize : 1 ≤ m.config.windowSize)
    (hwindow : (Store.window.load s).result = .ok w)
    (hok : (PageModel.process Store.window text ⟨m, s⟩).result = .ok ()) :
    ∃ p s', Classifier.classify c text = .ok p ∧
      (PageModel.process Store.window text ⟨m, s⟩).state = ⟨m, s'⟩ ∧
      (p.IsFinite → (Store.window.load s').result
          = .ok ⟨p.reread :: (w.pages.take (m.config.windowSize - 1)).map Page.reread⟩ ∧
        p.reread.keys = p.keys) ∧
      (¬p.IsFinite → (Store.window.load s').result
        = .error (.error (.storage (.malformedState Store.windowKey
            "the value does not decode")))) := by
  have hload : (Kind.page.load s).result = .ok w := by
    cases hout : Store.window.load s with
    | mk result s' l =>
      rw [hout] at hwindow
      subst hwindow
      exact congrArg Outcome.result (Op.orFresh_ok Window.empty Kind.page.warning hout)
  have hfinite : w.IsFinite := Kind.isSound_of_load hload
  obtain ⟨p, rows, hclassify, hs, hstate⟩ :=
    PageModel.state_process_of_ok hclassifier htext hload hok
  have hpages : (w.push p m.config.windowSize).pages
      = p :: w.pages.take (m.config.windowSize - 1) := by
    rw [Window.push, Nat.max_eq_left hsize]
    cases hn : m.config.windowSize with
    | zero => omega
    | succ n => rfl
  refine ⟨p, _, hclassify, hstate, fun hp => ⟨?_, Dict.keys_mapValues _ _⟩, fun hp => ?_⟩
  · rw [Store.window_load hs, Store.reading, (hfinite.push hp _).decode_render, Window.reread,
      hpages, List.map_cons]
  · have hmem : p ∈ (w.push p m.config.windowSize).pages := hpages ▸ List.mem_cons_self ..
    rw [Store.window_load hs, Store.reading, Window.decode_render_of_not_isFinite hmem hp]
    rfl

/-- Every page is fashion to the classifier. The new page is loaded in front of the earlier one. -/
theorem window_after_process_fashion :
    let fashion : Page := Dict.empty.insert "fashion" .one
    let _ : Classifier Page := ⟨fun p _ => .ok p⟩
    let m : PageModel Page :=
      ⟨Config.default.page, ⟨LinearClassifier.name, some fashion⟩, .summed, false⟩
    let s := (Store.opened .memory).withRows
      (Dict.empty.insert Store.windowKey (.text "[\x7b\"sports\":1.0\x7d]"))
    ∃ w s', (Store.window.load s).result = .ok w ∧
      (PageModel.process Store.window "shoes" ⟨m, s⟩).state = ⟨m, s'⟩ ∧
      (Store.window.load s').result
        = .ok ⟨fashion.reread :: (w.pages.take (m.config.windowSize - 1)).map Page.reread⟩ := by
  intro fashion _ m s
  have hwindow : ∃ w, (Store.window.load s).result = .ok w := by
    cases hload : (Store.window.load s).result with
    | ok w => exact ⟨w, rfl⟩
    | error e =>
      have hdecoded : (Store.window.load s).result.isOk = true := by decide +kernel
      rw [hload] at hdecoded
      cases hdecoded
  obtain ⟨w, hwindow⟩ := hwindow
  obtain ⟨p, s', hclassify, hstate, hloaded, -⟩ := window_after_process m fashion "shoes" s w rfl
    (by decide +kernel) (by decide) hwindow (by decide +kernel)
  cases hclassify
  have hfinite : fashion.IsFinite := by
    unfold Page.IsFinite
    decide
  exact ⟨w, s', hwindow, hstate, (hloaded hfinite).1⟩

/-- A classifier that passes its check gives the text a sum beyond all doubles. The page is
recorded, and the window that could be loaded before can be loaded no more. -/
theorem window_lost_after_overflow :
    let json := "\x7b\"version\":1,\"segments\":[\"sports\"],\"biases\":[0.0],"
      ++ "\"weights\":\x7b\"goal\":[1.0],\"huge\":[1e308]\x7d\x7d"
    let loaded := PageModel.load json (.new Config.default.page .summed)
    let s := (Store.opened .memory).withRows
      (Dict.empty.insert Store.windowKey (.text "[\x7b\"sports\":1.0\x7d]"))
    let processed := PageModel.process Store.window "huge huge" ⟨loaded.state, s⟩
    loaded.result = .ok () ∧ loaded.state.classifier.isReady = true ∧
      allBlank "huge huge" = false ∧ 1 ≤ loaded.state.config.windowSize ∧
      (Store.window.load s).result.isOk = true ∧
      processed.result = .ok () ∧
      (Store.window.load processed.state.store).result.map Window.size
        = .error (.error (Store.undecodedError Store.windowKey)) := by
  decide +kernel

end Audience
