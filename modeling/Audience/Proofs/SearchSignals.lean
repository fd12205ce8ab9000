import Audience.Intent.Extract
import Audience.Proofs.SearchWords

/-! # Signals of searches

A visit to a result page is a signal when the words of its query contain those of a keyword set. The
first entry that matches gives the segments, and the greatest weight of the funnel keywords that
match is the weight. All of this depends on the set of words of the query only, and not on the order
of the funnel keywords.

* **`IsMatch query keywords`** — the words of a keyword set are among those of a query.
* **`IsFirstMatch query entries e`** — the first entry with a keyword set that matches.
* **`IntentResource.IsWeight r query weight`** — the weight of a query.
* **`search_signals`** — the signals of result pages. -/

namespace Audience

/-! ## Matches -/

/-- A keyword set has words, and all of them are among those of a query. -/
def IsMatch (query keywords : String) : Prop :=
  searchWords keywords ≠ [] ∧ ∀ w ∈ searchWords keywords, w ∈ searchWords query

instance (query keywords : String) : Decidable (IsMatch query keywords) :=
  inferInstanceAs (Decidable (_ ∧ _))

/-- The keyword sets that match the words of a normal form. -/
theorem matchesWords_iff {query keywords : String} :
    matchesWords (wordsOf (normalize query)) keywords = true ↔ IsMatch query keywords := by
  simp [matchesWords, wordsOf_normalize, IsMatch]

/-- Queries with the same words have the same matches. -/
theorem IsMatch.congr {query query' : String}
    (h : ∀ w, w ∈ searchWords query ↔ w ∈ searchWords query') {keywords : String} :
    IsMatch query keywords ↔ IsMatch query' keywords := by
  simp only [IsMatch, h]

/-- An entry matches, and none before it does. -/
def IsFirstMatch (query : String) (entries : List SegmentKeywords) (e : SegmentKeywords) : Prop :=
  IsMatch query e.keywords ∧
    ∃ before after, entries = before ++ e :: after ∧ ∀ b ∈ before, ¬IsMatch query b.keywords

/-! ## Weights -/

instance lawfulOrderMaxUInt16 : Std.LawfulOrderMax UInt16 where
  max_eq_or a b := by
    rw [show max a b = if a ≤ b then b else a from rfl]
    split
    · exact .inr rfl
    · exact .inl rfl
  max_le_iff a b c := by
    rw [show max a b = if a ≤ b then b else a from rfl]
    simp only [UInt16.le_iff_toNat_le]
    split <;> omega

namespace IntentResource

variable {r : IntentResource} {now : Instant} {query query' address : String} {url : Url}

/-- The weight of a query: the greatest one of the funnel keywords that match it, and one if none
do. -/
def IsWeight (r : IntentResource) (query : String) (weight : UInt16) : Prop :=
  (∃ k ∈ r.funnelKeywords, IsMatch query k.keywords ∧ k.weight = weight ∧
    ∀ k' ∈ r.funnelKeywords, IsMatch query k'.keywords → k'.weight ≤ weight) ∨
  (∀ k ∈ r.funnelKeywords, ¬IsMatch query k.keywords) ∧ weight = 1

/-- A query has one weight. -/
theorem IsWeight.eq {weight weight' : UInt16} (h : r.IsWeight query weight)
    (h' : r.IsWeight query weight') : weight = weight' := by
  rcases h with ⟨k, hk, hmatch, rfl, hgreatest⟩ | ⟨hnone, rfl⟩
  · rcases h' with ⟨k', hk', hmatch', rfl, hgreatest'⟩ | ⟨hnone', -⟩
    · exact UInt16.le_antisymm (hgreatest' k hk hmatch) (hgreatest k' hk' hmatch')
    · exact absurd hmatch (hnone' k hk)
  · rcases h' with ⟨k', hk', hmatch', -, -⟩ | ⟨-, rfl⟩
    · exact absurd hmatch' (hnone k' hk')
    · rfl

/-- The order of the funnel keywords does not matter for the weight of a query. -/
theorem isWeight_perm {funnelKeywords : List FunnelKeywords} {weight : UInt16}
    (h : funnelKeywords.Perm r.funnelKeywords) :
    { r with funnelKeywords }.IsWeight query weight ↔ r.IsWeight query weight := by
  simp only [IsWeight, h.mem_iff]

/-- The weight that the funnel keywords give to the words of a query. -/
theorem isWeight_weightOf (r : IntentResource) (query : String) :
    r.IsWeight query (r.weightOf (wordsOf (normalize query))) := by
  rw [weightOf]
  cases hmax : ((r.funnelKeywords.filter fun k =>
      matchesWords (wordsOf (normalize query)) k.keywords).map FunnelKeywords.weight).max? with
  | none =>
    rw [List.max?_eq_none_iff, List.map_eq_nil_iff, List.filter_eq_nil_iff] at hmax
    exact .inr ⟨fun k hk hmatch => hmax k hk (matchesWords_iff.2 hmatch), rfl⟩
  | some weight =>
    obtain ⟨hmem, hgreatest⟩ := List.max?_eq_some_iff.1 hmax
    obtain ⟨k, hk, rfl⟩ := List.mem_map.1 hmem
    obtain ⟨hk, hmatch⟩ := List.mem_filter.1 hk
    refine .inl ⟨k, hk, matchesWords_iff.1 hmatch, rfl, fun k' hk' hmatch' => ?_⟩
    exact hgreatest _ (List.mem_map_of_mem
      (List.mem_filter.2 ⟨hk', matchesWords_iff.2 hmatch'⟩))

/-! ## Signals -/

/-- A query is no signal exactly if no entry matches it. -/
theorem querySignal?_eq_none_iff : r.querySignal? now query = none ↔
    ∀ e ∈ r.segmentKeywords, ¬IsMatch query e.keywords := by
  simp only [querySignal?, Option.map_eq_none_iff, List.find?_eq_none, matchesWords_iff]

/-- The signal of a query has the segments of the first entry that matches and the weight of the
query. -/
theorem querySignal?_eq_some_iff {signal : Signal} : r.querySignal? now query = some signal ↔
    signal.time = now ∧
      (∃ e, IsFirstMatch query r.segmentKeywords e ∧ signal.segments = e.segments) ∧
      r.IsWeight query signal.weight := by
  have hfirst : ∀ e, r.segmentKeywords.find? (fun k =>
      matchesWords (wordsOf (normalize query)) k.keywords) = some e ↔
        IsFirstMatch query r.segmentKeywords e := by
    intro e
    simp only [List.find?_eq_some_iff_append, IsFirstMatch, matchesWords_iff,
      Bool.not_eq_true', Bool.eq_false_iff, Ne]
  simp only [querySignal?, Option.map_eq_some_iff, hfirst]
  constructor
  · rintro ⟨e, he, rfl⟩
    exact ⟨rfl, ⟨e, he, rfl⟩, r.isWeight_weightOf query⟩
  · rintro ⟨rfl, ⟨e, he, hsegments⟩, hweight⟩
    refine ⟨e, he, ?_⟩
    rw [← hsegments, (r.isWeight_weightOf query).eq hweight]

/-- Queries with the same words have the same signal. -/
theorem querySignal?_congr (h : ∀ w, w ∈ searchWords query ↔ w ∈ searchWords query') :
    r.querySignal? now query = r.querySignal? now query' := by
  refine Option.ext fun signal => ?_
  simp only [querySignal?_eq_some_iff, IsFirstMatch, IsWeight, IsMatch.congr h]

/-- The order of the funnel keywords does not matter for the signal of a query. -/
theorem querySignal?_perm {funnelKeywords : List FunnelKeywords}
    (h : funnelKeywords.Perm r.funnelKeywords) :
    { r with funnelKeywords }.querySignal? now query = r.querySignal? now query := by
  refine Option.ext fun signal => ?_
  simp only [querySignal?_eq_some_iff, isWeight_perm h]

/-- The address of a web page on none of the funnel sites. -/
structure IsOffSite (r : IntentResource) (address : String) (url : Url) : Prop where
  parsed : Url.parse? address = some url
  scheme : url.scheme = "http" ∨ url.scheme = "https"
  noSite : url.host.bind r.siteFor? = none

/-- Off the funnel sites only the search query counts. -/
theorem IsOffSite.signalOf?_eq (h : r.IsOffSite address url) :
    r.signalOf? now address = (searchQuery? url).bind (r.querySignal? now) := by
  have hweb : isWebPage url = true := by simpa [isWebPage] using h.scheme
  simp [signalOf?, h.parsed, hweb, urlSignal?, h.noSite]

end IntentResource

/-- A visit off the funnel sites is no signal without a search query, and with one exactly if the
words of no keyword set are all among those of the query. Otherwise the signal has the segments of
the first entry that matches, and for its weight the greatest one of the funnel keywords that match,
or one. So queries with the same words have the same signal, and the order of the funnel keywords
does not matter. -/
theorem search_signals {r : IntentResource} {address : String} {url : Url}
    (hvisit : r.IsOffSite address url) (now : Instant) :
    (searchQuery? url = none → r.signalOf? now address = none) ∧
    (∀ query, searchQuery? url = some query →
      (r.signalOf? now address = none ↔ ∀ e ∈ r.segmentKeywords, ¬IsMatch query e.keywords) ∧
      ∀ signal, r.signalOf? now address = some signal ↔
        signal.time = now ∧
          (∃ e, IsFirstMatch query r.segmentKeywords e ∧ signal.segments = e.segments) ∧
          r.IsWeight query signal.weight) ∧
    (∀ address' url', r.IsOffSite address' url' → ∀ query query', searchQuery? url = some query →
      searchQuery? url' = some query' → (∀ w, w ∈ searchWords query ↔ w ∈ searchWords query') →
      r.signalOf? now address = r.signalOf? now address') ∧
    ∀ funnelKeywords : List FunnelKeywords, funnelKeywords.Perm r.funnelKeywords →
      { r with funnelKeywords }.signalOf? now address = r.signalOf? now address := by
  rw [hvisit.signalOf?_eq]
  refine ⟨?_, ?_, ?_, ?_⟩
  · intro hnone
    rw [hnone]
    rfl
  · intro query hquery
    rw [hquery]
    exact ⟨IntentResource.querySignal?_eq_none_iff,
      fun signal => IntentResource.querySignal?_eq_some_iff⟩
  · intro address' url' hvisit' query query' hquery hquery' hwords
    rw [hvisit'.signalOf?_eq, hquery, hquery']
    exact IntentResource.querySignal?_congr hwords
  · intro funnelKeywords hperm
    -- the sites stay the same, so the visit is off them as well
    have hvisit' : { r with funnelKeywords }.IsOffSite address url :=
      ⟨hvisit.parsed, hvisit.scheme, hvisit.noSite⟩
    rw [hvisit'.signalOf?_eq]
    cases searchQuery? url with
    | none => rfl
    | some query => exact IntentResource.querySignal?_perm hperm

/-- Two searches for red shoes, in another order and another case: the first keyword set is not
among the words, and of the two funnel keywords that match the greater weight counts. -/
theorem search_signals_shoes :
    let r : IntentResource := ⟨1, [⟨"shop.com", ["shops"], 9⟩],
      [⟨"blue shoes", ["blue"]⟩, ⟨"SHOES", ["shoes"]⟩, ⟨"red", ["red"]⟩],
      [⟨"red", 2⟩, ⟨"shoes", 5⟩, ⟨"buy", 8⟩]⟩
    r.signalOf? ⟨7, 0⟩ "https://duckduckgo.com/?q=Red+shoes" = some ⟨⟨7, 0⟩, ["shoes"], 5⟩ ∧
      r.signalOf? ⟨7, 0⟩ "https://www.bing.com/search?q=shoes%2C+RED!"
        = r.signalOf? ⟨7, 0⟩ "https://duckduckgo.com/?q=Red+shoes" := by
  intro r
  let url : Url := ⟨"https", some "duckduckgo.com", "/", some "q=Red+shoes".toList⟩
  let url' : Url := ⟨"https", some "www.bing.com", "/search", some "q=shoes%2C+RED!".toList⟩
  have hvisit : r.IsOffSite "https://duckduckgo.com/?q=Red+shoes" url :=
    ⟨by decide +kernel, .inr rfl, by decide +kernel⟩
  have hvisit' : r.IsOffSite "https://www.bing.com/search?q=shoes%2C+RED!" url' :=
    ⟨by decide +kernel, .inr rfl, by decide +kernel⟩
  have hquery : searchQuery? url = some "Red shoes" := by decide +kernel
  have hquery' : searchQuery? url' = some "shoes, RED!" := by decide +kernel
  have hwords : searchWords "Red shoes" = ["red", "shoes"] := by decide +kernel
  have hwords' : searchWords "shoes, RED!" = ["shoes", "red"] := by decide +kernel
  have hfirst : IsFirstMatch "Red shoes" r.segmentKeywords ⟨"SHOES", ["shoes"]⟩ :=
    ⟨by decide +kernel, [⟨"blue shoes", ["blue"]⟩], [⟨"red", ["red"]⟩], rfl, by decide +kernel⟩
  have hweight : r.IsWeight "Red shoes" 5 :=
    .inl ⟨⟨"shoes", 5⟩, by decide, by decide +kernel, rfl, by decide +kernel⟩
  constructor
  · exact (((search_signals hvisit ⟨7, 0⟩).2.1 _ hquery).2 _).2 ⟨rfl, ⟨_, hfirst, rfl⟩, hweight⟩
  · refine ((search_signals hvisit ⟨7, 0⟩).2.2.1 _ _ hvisit' _ _ hquery hquery' fun w => ?_).symm
    rw [hwords, hwords']
    exact (List.Perm.swap "shoes" "red" []).mem_iff

end Audience
