import Audience.Intent.Resource

/-! # Sites by the labels of their hosts

Whether a site serves a host is decided on the two texts: they are equal, or one ends with a dot and
the other. That is the same as comparing them label by label from the right, for all texts: empty
labels, dots at either end and hosts of nothing but `www.` are no exceptions. So a longer name under
a host that is served is served as well, and a name that only ends like a host is not.

* **`labels cs`** — the parts of a text between its dots.
* **`hostLabels host`** — the labels of a host without one `www.` at its start.
* **`labels_suffix_iff`** — ending with a dot and a text is ending with its labels.
* **`sites_by_labels`** — the sites that serve a host, and the first of them. -/

namespace Audience

/-! ## Labels -/

/-- The parts of a text between its dots. -/
def labels (cs : List Char) : List (List Char) := cs.splitOn '.'

/-- There is always a label. -/
theorem labels_ne_nil (cs : List Char) : labels cs ≠ [] := List.splitOn_ne_nil _ _

/-- A dot separates the labels before it from those after it. -/
@[simp] theorem labels_append_dot (as bs : List Char) :
    labels (as ++ '.' :: bs) = labels as ++ labels bs :=
  List.splitOn_append_cons_self as bs

/-- Labels that are joined by dots give the text. -/
theorem intercalate_labels (cs : List Char) : ['.'].intercalate (labels cs) = cs :=
  List.intercalate_splitOn '.'

/-- Texts with the same labels are the same. -/
theorem labels_injective {as bs : List Char} (h : labels as = labels bs) : as = bs := by
  rw [← intercalate_labels as, h, intercalate_labels]

/-- Two parts of a list of labels are joined by one dot. -/
theorem intercalate_append_dot {front back : List (List Char)} (hfront : front ≠ [])
    (hback : back ≠ []) : ['.'].intercalate (front ++ back)
      = ['.'].intercalate front ++ '.' :: ['.'].intercalate back := by
  induction front with
  | nil => exact absurd rfl hfront
  | cons label front ih =>
    cases front with
    | nil =>
      obtain ⟨first, rest, rfl⟩ := List.exists_cons_of_ne_nil hback
      simp [List.intercalate_cons_cons]
    | cons next front =>
      have hrest := ih (List.cons_ne_nil next front)
      rw [List.cons_append] at hrest
      simp [List.intercalate_cons_cons, hrest]

/-- A text is another one, or ends with a dot and the other one, exactly if its labels end with the
labels of the other one. -/
theorem labels_suffix_iff {as bs : List Char} :
    (bs = as ∨ '.' :: as <:+ bs) ↔ labels as <:+ labels bs := by
  constructor
  · rintro (rfl | ⟨front, rfl⟩)
    · exact List.suffix_rfl
    · rw [labels_append_dot]
      exact List.suffix_append _ _
  · rintro ⟨front, hfront⟩
    by_cases hnone : front = []
    · rw [hnone, List.nil_append] at hfront
      exact .inl (labels_injective hfront).symm
    · -- joining the labels puts one dot between the two parts
      have hjoined := intercalate_append_dot hnone (labels_ne_nil as)
      rw [hfront, intercalate_labels, intercalate_labels] at hjoined
      exact .inr ⟨_, hjoined.symm⟩

/-! ## Hosts -/

/-- The labels of a host, without one `www.` at its start. -/
def hostLabels (host : String) : List (List Char) :=
  labels (if "www.".toList <+: host.toList then host.toList.drop 4 else host.toList)

/-- The labels of a host are all labels of its text, or all but a first one. -/
theorem hostLabels_cases (host : String) : hostLabels host = labels host.toList ∨
    ∃ first, labels host.toList = first :: hostLabels host := by
  rw [hostLabels]
  split
  next hwww =>
    obtain ⟨rest, hhost⟩ := hwww
    refine .inr ⟨"www".toList, ?_⟩
    rw [← hhost]
    exact List.splitOn_append_cons_self "www".toList rest
  next => exact .inl rfl

/-- A longer name ends with the labels of a host. -/
theorem hostLabels_suffix_append (front host : String) :
    hostLabels host <:+ hostLabels (front ++ "." ++ host) := by
  have hhost : hostLabels host <:+ labels host.toList := by
    rcases hostLabels_cases host with heq | ⟨first, heq⟩
    · exact ⟨[], heq⟩
    · rw [heq]
      exact List.suffix_cons _ _
  have hlong : labels (front ++ "." ++ host).toList
      = labels front.toList ++ labels host.toList := by
    rw [String.toList_append, String.toList_append, List.append_assoc]
    exact labels_append_dot _ _
  refine hhost.trans ?_
  rcases hostLabels_cases (front ++ "." ++ host) with heq | ⟨first, heq⟩
  · rw [heq, hlong]
    exact List.suffix_append _ _
  · -- at most one label is left out, and there is one before those of the host
    rw [hlong, List.append_eq_cons_iff] at heq
    rcases heq with ⟨hnone, -⟩ | ⟨rest, -, hrest⟩
    · exact absurd hnone (labels_ne_nil _)
    · rw [hrest]
      exact List.suffix_append _ _

namespace IntentResource

/-- What is compared is the host without one `www.` at its start. -/
theorem labels_bareHost (host : String) : labels (bareHost host) = hostLabels host := by
  rw [hostLabels, bareHost]
  congr 1
  split
  next rest hhost =>
    rw [hhost, if_pos ⟨rest, rfl⟩]
    rfl
  next hother =>
    rw [if_neg]
    rintro ⟨rest, hhost⟩
    exact hother rest hhost.symm

/-- A site serves the hosts that end with its labels. -/
theorem FunnelSite.serves_iff {s : FunnelSite} {host : String} :
    FunnelSite.serves s host = true ↔ hostLabels s.host <:+ hostLabels host := by
  rw [← labels_bareHost, ← labels_bareHost, ← labels_suffix_iff, FunnelSite.serves,
    Bool.or_eq_true, beq_iff_eq, List.isSuffixOf_iff_suffix]

end IntentResource

/-- A site serves a host exactly if the labels of the host, without one `www.` at the start of
either, end with the labels of the site. The first site of the resource that serves a host is its
site, and a host has none exactly if no site serves it. So every name under a host that has a site
has one too, by the same site at least, and a host whose label only ends with a label of the site is
not served by it. -/
theorem sites_by_labels (r : IntentResource) (host : String) :
    (∀ s, IntentResource.FunnelSite.serves s host = true ↔
      hostLabels s.host <:+ hostLabels host) ∧
    (∀ s, r.siteFor? host = some s ↔ hostLabels s.host <:+ hostLabels host ∧
      ∃ before after, r.sites = before ++ s :: after ∧
        ∀ b ∈ before, ¬hostLabels b.host <:+ hostLabels host) ∧
    (r.siteFor? host = none ↔ ∀ s ∈ r.sites, ¬hostLabels s.host <:+ hostLabels host) ∧
    (∀ front s, IntentResource.FunnelSite.serves s host = true →
      IntentResource.FunnelSite.serves s (front ++ "." ++ host) = true) ∧
    (∀ front, (r.siteFor? host).isSome = true →
      (r.siteFor? (front ++ "." ++ host)).isSome = true) ∧
    ∀ s before part label rest, part ≠ [] → hostLabels s.host = label :: rest →
      hostLabels host = before ++ (part ++ label) :: rest →
      IntentResource.FunnelSite.serves s host = false := by
  have hlonger : ∀ front s, IntentResource.FunnelSite.serves s host = true →
      IntentResource.FunnelSite.serves s (front ++ "." ++ host) = true := by
    intro front s hserves
    rw [IntentResource.FunnelSite.serves_iff] at hserves ⊢
    exact hserves.trans (hostLabels_suffix_append front host)
  refine ⟨fun s => IntentResource.FunnelSite.serves_iff, fun s => ?_, ?_, hlonger, ?_, ?_⟩
  · simp only [IntentResource.siteFor?, List.find?_eq_some_iff_append,
      IntentResource.FunnelSite.serves_iff, Bool.not_eq_true', Bool.eq_false_iff, Ne]
  · simp only [IntentResource.siteFor?, List.find?_eq_none, IntentResource.FunnelSite.serves_iff]
  · intro front hsome
    simp only [IntentResource.siteFor?, List.find?_isSome] at hsome ⊢
    obtain ⟨s, hs, hserves⟩ := hsome
    exact ⟨s, hs, hlonger front s hserves⟩
  · intro s before part label rest hpart hsite hhost
    refine Bool.eq_false_iff.2 fun hserves => hpart ?_
    rw [IntentResource.FunnelSite.serves_iff, hsite, hhost] at hserves
    obtain ⟨before', heq⟩ := hserves
    -- both lists end with the same labels, so the labels before those are the same too
    have hlabel := (List.cons.inj (List.append_inj' heq rfl).2).1
    exact List.self_eq_append_left.1 hlabel

/-- An empty label before the host of the site, a name in front of a host with `www.`, and a host
that only ends like the one of the site. A site of nothing but `www.` serves the hosts that end with
a dot. -/
theorem sites_by_labels_cars :
    let cars : FunnelSite := ⟨"www.cars.com", ["cars"], 1⟩
    let rest : FunnelSite := ⟨"www.", ["rest"], 2⟩
    let r : IntentResource := ⟨1, [cars, rest], [], []⟩
    r.siteFor? "www..cars.com" = some cars ∧ r.siteFor? "cars.com." = some rest ∧
      IntentResource.FunnelSite.serves cars ("shop.eu" ++ "." ++ "www.cars.com") = true ∧
      IntentResource.FunnelSite.serves cars "notcars.com" = false := by
  intro cars rest r
  obtain ⟨-, hsite, -⟩ := sites_by_labels r "www..cars.com"
  obtain ⟨-, hdot, -⟩ := sites_by_labels r "cars.com."
  obtain ⟨-, -, -, hlonger, -, -⟩ := sites_by_labels r "www.cars.com"
  obtain ⟨-, -, -, -, -, hpart⟩ := sites_by_labels r "notcars.com"
  refine ⟨(hsite cars).2 ⟨by decide, [], [rest], rfl, by decide⟩,
    (hdot rest).2 ⟨by decide, [cars], [], rfl, by decide⟩, hlonger _ cars (by decide), ?_⟩
  exact hpart cars [] "not".toList "cars".toList ["com".toList] (by decide) (by decide) (by decide)

end Audience
