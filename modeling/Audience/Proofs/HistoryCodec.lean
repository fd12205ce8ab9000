import Audience.Intent.History
import Audience.Proofs.Dictionary
import Audience.Proofs.JsonText
import Audience.Proofs.Lists
import Audience.Proofs.StoreView
import Audience.Proofs.TimeStamp

/-! # Reading a stored history back

The text of a history decodes to that history: entries by their time stamps and weights, trails
because they are newest first already, and the dictionary because its keys ascend.

* **`History.EachTime P h`** — a property of all times of a history, with **`History.IsPlain h`**,
  **`History.IsStampable h`** and **`History.InCalendar h`** as cases.
* **`History.lists? v`** — the lists of a stored history in the order in which they are written.
* **`History.reread h`** — what the stored form of a history is read as.
* **`History.IsStampable.decode_render`** — the stored text of a history decodes to it.
* **`History.InCalendar.decode_render`** — the stored text of a history decodes, whatever leap
  seconds are in it.
* **`History.isStampable_of_decoded`** — what is decoded can be stored again.
* **`history_round_trip`** — a history that is saved is loaded again, and one that is loaded can be
  saved and loaded without a change. -/

namespace Audience

/-- A natural number up to a limit is read back. -/
theorem Json.nat?_ofNat {n limit : Nat} (h : n ≤ limit) : (Json.ofNat n).nat? limit = some n := by
  have hvalue : (Numeral.ofNat n).nat? = some n := by
    rw [Numeral.nat?, Numeral.ofNat, digitsValue_natDigits]
    rfl
  rw [Json.ofNat, Json.nat?, hvalue, Option.filter_some_pos (by simpa using h)]

/-- Sorting entries that are newest first changes nothing, so a trail is made of its entries. -/
theorem Trail.ofList?_entries (t : Trail) : Trail.ofList? t.entries = some t := by
  rw [Trail.ofList?, dif_neg t.nonEmpty, Option.some.injEq]
  apply Trail.ext
  exact List.mergeSort_of_pairwise t.newestFirst

namespace History

/-! ## Times -/

/-- A property of all times of a history. -/
def EachTime (P : Instant → Prop) (h : History) : Prop :=
  ∀ t ∈ h.trails.values, ∀ e ∈ t.entries, P e.time

namespace EachTime

variable {P : Instant → Prop} {h : History}

/-- The empty history has no times. -/
theorem empty : EachTime P .empty := fun _ ht => nomatch ht

/-- Appending an entry adds its time. -/
theorem append (hall : h.EachTime P) (s : Segment) {e : Entry} (he : P e.time) (cap : Nat) :
    (h.append s e cap).EachTime P := by
  intro t ht x hx
  obtain ⟨⟨s', _⟩, hmem, rfl⟩ := List.mem_map.1 ht
  rcases Dict.mem_put hmem with heq | hold
  · obtain ⟨rfl, rfl⟩ := Prod.mk.inj heq
    cases htrail : h.trails.get? s' with
    | none =>
      rw [htrail] at hx
      rw [List.mem_singleton.1 hx]
      exact he
    | some t =>
      rw [htrail] at hx
      rcases mem_place.1 (List.mem_of_mem_take hx) with rfl | hx
      · exact he
      · exact hall t (List.mem_map_of_mem (Dict.get?_eq_some_iff.1 htrail)) x hx
  · exact hall _ (List.mem_map_of_mem hold) x hx

/-- Recording a signal adds its time. -/
theorem record (hall : h.EachTime P) {signal : Signal} (htime : P signal.time) (cap : Nat) :
    (h.record signal cap).EachTime P := by
  rw [History.record]
  generalize signal.segments = segments
  induction segments generalizing h with
  | nil => exact hall
  | cons s rest ih => exact ih (hall.append s (e := signal.entry) htime cap)

end EachTime

/-- All times of a history are plain. -/
def IsPlain (h : History) : Prop := h.EachTime Instant.IsPlain

/-- All times of a history are stampable. -/
def IsStampable (h : History) : Prop := h.EachTime Instant.IsStampable

/-- All times of a history are within the calendar. -/
def InCalendar (h : History) : Prop := h.EachTime (·.inCalendar = true)

/-- A history of plain times is one of stampable times. -/
theorem IsPlain.isStampable {h : History} (hplain : h.IsPlain) : h.IsStampable :=
  fun t ht e he => (hplain t ht e he).isStampable

/-- A history of stampable times is one of times within the calendar. -/
theorem IsStampable.inCalendar {h : History} (hstamps : h.IsStampable) : h.InCalendar :=
  fun t ht e he => (hstamps t ht e he).1

/-! ## The stored form -/

/-- The lists of a stored history in the order in which they are written. -/
def lists? (v : Json) : Option (Dict (List Entry)) := v.dict? (Json.list? entry?)

/-- A history is read by sorting its lists. -/
theorem ofJson?_eq (v : Json) : ofJson? v = (lists? v).map ofLists := rfl

/-- The written form of a weight is read back. -/
theorem weight?_ofNat (w : UInt16) : weight? (.ofNat w.toNat) = some w := by
  have hlt : w.toNat ≤ 65535 := Nat.le_of_lt_succ w.toNat_lt
  rw [weight?, Json.nat?_ofNat hlt, Option.map_some, UInt16.ofNat_toNat]

/-- The stored form of an entry is read by its time stamp. -/
theorem entry?_entryJson_eq (e : Entry) :
    entry? (entryJson e) = (Stamp.relaxed? e.time.stamp).map (Entry.mk · e.weight) := by
  have hrecord : (entryJson e).record? ["occurred_at", "weight"]
      = some [some (.text e.time.stamp), some (.ofNat e.weight.toNat)] := by
    simp [entryJson, Json.record?, List.countP_cons, List.lookup_cons]
  have htime : time? (.text e.time.stamp) = Stamp.relaxed? e.time.stamp := by
    rw [time?, Json.text?, Option.bind_some]
  unfold entry?
  rw [hrecord]
  simp only [Option.bind_eq_bind, Option.bind_some, htime, weight?_ofNat]
  cases Stamp.relaxed? e.time.stamp <;> rfl

/-- The stored form of an entry is read back. -/
theorem entry?_entryJson {e : Entry} (h : e.time.IsStampable) : entry? (entryJson e) = some e := by
  rw [entry?_entryJson_eq, Stamp.relaxed?_stamp h]
  rfl

/-- What the stored form of an entry is read as. -/
def rereadEntry (e : Entry) : Entry := (entryJson e |> entry?).getD e

/-- An entry with a stampable time is read as it is. -/
theorem rereadEntry_of_isStampable {e : Entry} (h : e.time.IsStampable) : rereadEntry e = e := by
  rw [rereadEntry, entry?_entryJson h, Option.getD_some]

/-- Entries with stampable times are read as they are. -/
theorem map_rereadEntry {es : List Entry} (h : ∀ e ∈ es, e.time.IsStampable) :
    es.map rereadEntry = es := by
  rw [List.map_congr_left fun e he => rereadEntry_of_isStampable (h e he), List.map_id']

/-- The stored form of an entry within the calendar is read. -/
theorem entry?_entryJson_of_inCalendar {e : Entry} (h : e.time.inCalendar = true) :
    entry? (entryJson e) = some (rereadEntry e) := by
  obtain ⟨time, htime⟩ := Stamp.exists_relaxed?_stamp h
  rw [rereadEntry, entry?_entryJson_eq, htime]
  rfl

/-- The stored lists of a history within the calendar are its trails, each entry reread. -/
theorem InCalendar.lists?_toJson {h : History} (hcalendar : h.InCalendar) :
    lists? h.toJson = some (h.trails.mapValues (fun t => t.entries.map rereadEntry)) := by
  have hlist : ∀ t ∈ h.trails.entries, (Json.list? entry? (.array (t.2.entries.map entryJson))).map
      (fun v => (t.1, v)) = some (t.1, t.2.entries.map rereadEntry) := by
    intro t ht
    have hentries : (t.2.entries.map entryJson).mapM entry? = some (t.2.entries.map rereadEntry) :=
      mapM_map_some fun e he =>
        entry?_entryJson_of_inCalendar (hcalendar t.2 (List.mem_map_of_mem ht) e he)
    rw [Json.list?, hentries, Option.map_some]
  -- segments are written in ascending order, so each is put back behind the ones before it
  have hdict : Dict.ofList (h.trails.entries.map (fun t => (t.1, t.2.entries.map rereadEntry)))
      = h.trails.mapValues (fun t => t.entries.map rereadEntry) :=
    Dict.ofList_entries (h.trails.mapValues (fun t : Trail => t.entries.map rereadEntry))
  rw [lists?, toJson, Json.dict?, mapM_map_some hlist, Option.map_some, hdict]

/-- What the stored form of a history is read as. -/
def reread (h : History) : History :=
  ofLists (h.trails.mapValues (fun t => t.entries.map rereadEntry))

/-- The stored form of a history within the calendar is read. -/
theorem InCalendar.ofJson?_toJson {h : History} (hcalendar : h.InCalendar) :
    ofJson? h.toJson = some h.reread := by
  rw [ofJson?_eq, hcalendar.lists?_toJson, Option.map_some, reread]

/-- The trail of a segment is reread entry by entry. -/
theorem get?_reread (h : History) (s : Segment) : h.reread.trails.get? s
    = (h.trails.get? s).bind (fun t => Trail.ofList? (t.entries.map rereadEntry)) := by
  rw [reread, ofLists, Dict.get?_filterMapValues, Dict.get?_mapValues, Option.bind_map]
  rfl

/-- A trail of stampable times is read as it is. -/
theorem get?_reread_of_isStampable {h : History} {s : Segment}
    (hstamps : ∀ t, h.trails.get? s = some t → ∀ e ∈ t.entries, e.time.IsStampable) :
    h.reread.trails.get? s = h.trails.get? s := by
  rw [get?_reread]
  cases htrail : h.trails.get? s with
  | none => rfl
  | some t =>
    rw [Option.bind_some, map_rereadEntry (hstamps t htrail), Trail.ofList?_entries]

/-- A segment with a trail still has one when the history is read. -/
theorem exists_get?_reread {h : History} {s : Segment} {t : Trail}
    (htrail : h.trails.get? s = some t) : ∃ t', h.reread.trails.get? s = some t' := by
  have hne : t.entries.map rereadEntry ≠ [] := by simpa using t.nonEmpty
  rw [get?_reread, htrail, Option.bind_some, Trail.ofList?, dif_neg hne]
  exact ⟨_, rfl⟩

/-- A history of stampable times is read as it is. -/
theorem IsStampable.reread_eq {h : History} (hstamps : h.IsStampable) : h.reread = h := by
  have htrails : h.reread.trails = h.trails := Dict.ext_get? fun s =>
    get?_reread_of_isStampable fun t htrail =>
      hstamps t (List.mem_map_of_mem (Dict.get?_eq_some_iff.1 htrail))
  cases h
  exact congrArg History.mk htrails

/-- The stored lists of a history of stampable times are its trails. -/
theorem lists?_toJson {h : History} (hstamps : h.IsStampable) :
    lists? h.toJson = some (h.trails.mapValues Trail.entries) := by
  rw [hstamps.inCalendar.lists?_toJson, Option.some.injEq]
  refine Dict.ext_get? fun s => ?_
  rw [Dict.get?_mapValues, Dict.get?_mapValues]
  refine Option.map_congr fun t htrail => ?_
  exact map_rereadEntry (hstamps t (List.mem_map_of_mem (Dict.get?_eq_some_iff.1 htrail)))

/-- Every stored list has the segment and the length of a trail. -/
theorem exists_trail_of_lists? {h : History} {lists : Dict (List Entry)}
    (hlists : lists? h.toJson = some lists) {s : Segment} {es : List Entry}
    (hmem : (s, es) ∈ lists.entries) :
    ∃ t, h.trails.get? s = some t ∧ es.length = t.entries.length := by
  rw [lists?, toJson, Json.dict?, Option.map_eq_some_iff] at hlists
  obtain ⟨pairs, hpairs, rfl⟩ := hlists
  obtain ⟨m, hm, hread⟩ := exists_of_mem_mapM hpairs (Dict.mem_of_mem_ofList hmem)
  obtain ⟨⟨s', t⟩, ht, rfl⟩ := List.mem_map.1 hm
  simp only [Option.map_eq_some_iff, Prod.mk.injEq] at hread
  obtain ⟨_, hitems, rfl, rfl⟩ := hread
  refine ⟨t, Dict.get?_eq_some_iff.2 ht, ?_⟩
  rw [Json.list?] at hitems
  rw [length_of_mapM hitems, List.length_map]

/-- The stored form of a history can be spelled out. -/
theorem isSpelled_toJson (h : History) : h.toJson.IsSpelled := by
  have hentry : ∀ e : Entry, (entryJson e).IsSpelled := by
    intro e
    refine .object fun m hm => ?_
    rcases List.mem_cons.1 hm with rfl | hm
    · exact .text _
    · rw [List.mem_singleton.1 hm]
      exact .number (Numeral.isSpelled_ofNat _)
  refine .object fun m hm => ?_
  obtain ⟨t, _, rfl⟩ := List.mem_map.1 hm
  refine .array fun v hv => ?_
  obtain ⟨e, _, rfl⟩ := List.mem_map.1 hv
  exact hentry e

/-- The stored text of a history within the calendar decodes to what it is read as. -/
theorem InCalendar.decode_render {h : History} (hcalendar : h.InCalendar) :
    (Json.parse? h.toJson.render).bind ofJson? = some h.reread := by
  rw [Json.parse?_render h.isSpelled_toJson, Option.bind_some, hcalendar.ofJson?_toJson]

/-- The stored text of a history decodes to it. -/
theorem IsStampable.decode_render {h : History} (hstamps : h.IsStampable) :
    (Json.parse? h.toJson.render).bind ofJson? = some h := by
  rw [hstamps.inCalendar.decode_render, hstamps.reread_eq]

/-- The stored text of a history of plain times decodes to it. -/
theorem decode_render {h : History} (hplain : h.IsPlain) :
    (Json.parse? h.toJson.render).bind ofJson? = some h := hplain.isStampable.decode_render

/-- The stored text of a history within the calendar decodes. -/
theorem InCalendar.exists_decode {h : History} (hcalendar : h.InCalendar) :
    ∃ h', (Json.parse? h.toJson.render).bind ofJson? = some h' := ⟨_, hcalendar.decode_render⟩

/-! ## Decoded times -/

/-- The time of an entry that is read is stampable. -/
theorem isStampable_of_entry? {v : Json} {e : Entry} (h : entry? v = some e) :
    e.time.IsStampable := by
  unfold entry? at h
  simp only [Option.bind_eq_bind, Option.bind_eq_some_iff] at h
  obtain ⟨fields, _, h⟩ := h
  split at h
  · simp only [Option.bind_eq_some_iff, Option.pure_def, Option.some.injEq, time?] at h
    obtain ⟨_, ⟨_, _, htime⟩, _, _, rfl⟩ := h
    exact Stamp.isStampable_of_relaxed? htime
  · cases h

/-- The times of a history that is read are stampable. -/
theorem isStampable_of_ofJson? {v : Json} {h : History} (hread : ofJson? v = some h) :
    h.IsStampable := by
  intro t ht e he
  rw [ofJson?, Option.map_eq_some_iff] at hread
  obtain ⟨lists, hlists, rfl⟩ := hread
  -- the trail has the entries of one of the lists
  obtain ⟨⟨s, _⟩, hmem, rfl⟩ := List.mem_map.1 ht
  obtain ⟨⟨_, es⟩, hes, hsome⟩ := List.mem_filterMap.1 hmem
  simp only [Option.map_eq_some_iff, Prod.mk.injEq, Trail.ofList?] at hsome
  obtain ⟨_, htrail, rfl, rfl⟩ := hsome
  split at htrail
  · cases htrail
  cases htrail
  have hentry : e ∈ es := List.mem_mergeSort.1 he
  -- the list was read item by item
  cases v with
  | object members =>
    rw [Json.dict?, Option.map_eq_some_iff] at hlists
    obtain ⟨pairs, hpairs, rfl⟩ := hlists
    obtain ⟨m, _, hm⟩ := exists_of_mem_mapM hpairs (Dict.mem_of_mem_ofList hes)
    rw [Option.map_eq_some_iff] at hm
    obtain ⟨es', hlist, hm⟩ := hm
    cases hm
    cases hv : m.2 with
    | array items =>
      rw [hv, Json.list?] at hlist
      obtain ⟨item, _, hitem⟩ := exists_of_mem_mapM hlist hentry
      exact isStampable_of_entry? hitem
    | null | bool | number | text | object | unreadable =>
      rw [hv] at hlist
      cases hlist
  | null | bool | number | text | array | unreadable => cases hlists

/-- The times of a history that is read are within the calendar. -/
theorem inCalendar_of_ofJson? {v : Json} {h : History} (hread : ofJson? v = some h) {t : Trail}
    (ht : t ∈ h.trails.values) {e : Entry} (he : e ∈ t.entries) : e.time.inCalendar = true :=
  (isStampable_of_ofJson? hread t ht e he).1

/-- What a text decodes to can be stored again. -/
theorem isStampable_of_decoded {text : String} {h : History}
    (hdecoded : (Json.parse? text).bind ofJson? = some h) : h.IsStampable := by
  obtain ⟨v, _, hread⟩ := Option.bind_eq_some_iff.1 hdecoded
  exact isStampable_of_ofJson? hread

end History

/-! ## Through the store -/

/-- A history that is saved is loaded again. -/
theorem History.IsStampable.load_save {h : History} (hstamps : h.IsStampable) {s : Store}
    {rows : Dict Cell} (hs : s.Keeps rows) : ∃ s', Store.history.save h s = ⟨.ok (), s', []⟩ ∧
      Store.history.load s' = ⟨.ok h, s', []⟩ := by
  have hsave := hs.save Store.historyKey History.ofJson? History.toJson .empty h
  refine ⟨_, hsave, ?_⟩
  have hload := (hs.withRows (rows.insert Store.historyKey (.text h.toJson.render))).load
    Store.historyKey History.ofJson? History.toJson .empty
  rw [Dict.get?_insert_self, Store.reading, Store.decoded, hstamps.decode_render] at hload
  exact hload

/-- A history of plain times that is saved is loaded again: the same segments, and for each of them
the same entries in the same order. What any text decodes to, with its lists sorted and the empty
ones dropped, is written as a text that decodes to the same. -/
theorem history_round_trip :
    (∀ (h : History) (s : Store) (rows : Dict Cell), h.IsPlain → s.Keeps rows →
      ∃ s', Store.history.save h s = ⟨.ok (), s', []⟩ ∧
        Store.history.load s' = ⟨.ok h, s', []⟩) ∧
    (∀ (text : String) (h : History), Store.decoded History.ofJson? text = some h →
      Store.decoded History.ofJson? h.toJson.render = some h) :=
  ⟨fun _ _ _ hplain hs => hplain.isStampable.load_save hs,
    fun _ _ hdecoded => (History.isStampable_of_decoded hdecoded).decode_render⟩

/-- Two entries of one time under a segment that has to be escaped; and a text with a leap second,
an entry out of order and a segment without entries. -/
theorem history_round_trip_ties :
    let h := (History.empty.append "a\"\n" ⟨⟨-62135596801, 5⟩, 1⟩ 9).append "a\"\n"
      ⟨⟨-62135596801, 5⟩, 2⟩ 9
    let text := "\x7b\"a\":[\x7b\"occurred_at\":\"2016-12-31T23:59:60.5Z\",\"weight\":2\x7d,"
      ++ "\x7b\"occurred_at\":\"+20000-1-1 1:2:3+00:30\",\"weight\":65535\x7d],\"b\":[]\x7d"
    (∃ s', Store.history.save h (Store.opened .memory) = ⟨.ok (), s', []⟩ ∧
      Store.history.load s' = ⟨.ok h, s', []⟩) ∧
    ∃ h', Store.decoded History.ofJson? text = some h' ∧
      Store.decoded History.ofJson? h'.toJson.render = some h' := by
  intro h text
  have hplain : h.IsPlain := by
    show ∀ t ∈ h.trails.values, ∀ e ∈ t.entries, e.time.IsPlain
    decide +kernel
  have htext : (Store.decoded History.ofJson? text).isSome = true := by decide +kernel
  obtain ⟨h', hdecoded⟩ := Option.isSome_iff_exists.1 htext
  exact ⟨history_round_trip.1 h _ _ hplain (Store.keeps_opened (by decide)), h', hdecoded,
    history_round_trip.2 text h' hdecoded⟩

end Audience
