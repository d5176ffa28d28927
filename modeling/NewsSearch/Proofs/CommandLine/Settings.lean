import NewsSearch.Proofs.CommandLine.Tokens

/-!
# Filters under settings

What each filter is after some settings is said by the settings of its own option. So settings with
the values of a filter set put this set over the one that was there.
-/

namespace NewsSearch

open CommandLine

/-- Filters over others: what a scalar has here counts, the lists follow those below, and the limit is
the one here. -/
def FilterSet.over (g f : FilterSet) : FilterSet where
  startDate := g.startDate.or f.startDate
  endDate := g.endDate.or f.endDate
  timespan := g.timespan.or f.timespan
  keywords := f.keywords ++ g.keywords
  domains := f.domains ++ g.domains
  domainsExact := f.domainsExact ++ g.domainsExact
  countries := f.countries ++ g.countries
  languages := f.languages ++ g.languages
  themes := f.themes ++ g.themes
  tone := g.tone.or f.tone
  toneAbsolute := g.toneAbsolute.or f.toneAbsolute
  near := g.near.or f.near
  repeated := g.repeated.or f.repeated
  maxRecords := g.maxRecords

theorem FilterSet.over_empty (g : FilterSet) : g.over .empty = g := by
  simp [FilterSet.over, FilterSet.empty]

namespace CommandLine

/-! ## One filter of a set -/

def ScalarFilter.get : ScalarFilter → FilterSet → Option String
  | .startDate => FilterSet.startDate
  | .endDate => FilterSet.endDate
  | .timespan => FilterSet.timespan
  | .tone => FilterSet.tone
  | .toneAbsolute => FilterSet.toneAbsolute
  | .near => FilterSet.near
  | .repeated => FilterSet.repeated

def ListFilter.get : ListFilter → FilterSet → List String
  | .keyword => FilterSet.keywords
  | .domain => FilterSet.domains
  | .domainExact => FilterSet.domainsExact
  | .country => FilterSet.countries
  | .language => FilterSet.languages
  | .theme => FilterSet.themes

theorem get_over (k : ScalarFilter) (f g : FilterSet) :
    k.get (g.over f) = (k.get g).or (k.get f) := by
  cases k <;> rfl

theorem listGet_over (l : ListFilter) (f g : FilterSet) :
    l.get (g.over f) = l.get f ++ l.get g := by
  cases l <;> rfl

theorem filterSet_ext {f g : FilterSet} (hscalar : ∀ k : ScalarFilter, k.get f = k.get g)
    (hlist : ∀ l : ListFilter, l.get f = l.get g) (hmax : f.maxRecords = g.maxRecords) : f = g := by
  cases f
  cases g
  obtain rfl := hmax
  obtain rfl := hscalar .startDate
  obtain rfl := hscalar .endDate
  obtain rfl := hscalar .timespan
  obtain rfl := hscalar .tone
  obtain rfl := hscalar .toneAbsolute
  obtain rfl := hscalar .near
  obtain rfl := hscalar .repeated
  obtain rfl := hlist .keyword
  obtain rfl := hlist .domain
  obtain rfl := hlist .domainExact
  obtain rfl := hlist .country
  obtain rfl := hlist .language
  obtain rfl := hlist .theme
  rfl

/-! ## One option of some settings -/

/-- The settings of an option, in order. -/
def ofOption (o : ValueOption) (ss : List Setting) : List Setting := ss.filter (·.option == o)

theorem ofOption_cons_self {s : Setting} {o : ValueOption} (h : s.option = o) (ss : List Setting) :
    ofOption o (s :: ss) = s :: ofOption o ss :=
  List.filter_cons_of_pos (beq_iff_eq.mpr h)

theorem ofOption_cons_of_ne {s : Setting} {o : ValueOption} (h : s.option ≠ o) (ss : List Setting) :
    ofOption o (s :: ss) = ofOption o ss :=
  List.filter_cons_of_neg (by simpa using h)

/-- A part of the filters that one option alone changes comes out as this option's settings make
it. -/
theorem part_applyAll {α : Type} {part : FilterSet → α} {o : ValueOption} {change : α → Setting → α}
    (h : ∀ f s, part (Setting.apply f s) = if s.option = o then change (part f) s else part f)
    (ss : List Setting) (f : FilterSet) :
    part (applyAll ss f) = (ofOption o ss).foldl change (part f) := by
  induction ss generalizing f with
  | nil => rfl
  | cons s ss ih =>
    have hcons : applyAll (s :: ss) f = applyAll ss (Setting.apply f s) := rfl
    by_cases hs : s.option = o
    · rw [hcons, ih, h, if_pos hs, ofOption_cons_self hs, List.foldl_cons]
    · rw [hcons, ih, h, if_neg hs, ofOption_cons_of_ne hs]

theorem get_apply (k : ScalarFilter) (f : FilterSet) (s : Setting) :
    k.get (Setting.apply f s) = if s.option = .scalar k then some s.valueText else k.get f := by
  cases s with
  | scalar k' v => cases k <;> cases k' <;> rfl
  | list l v => cases k <;> cases l <;> rfl
  | _ => cases k <;> rfl

theorem listGet_apply (l : ListFilter) (f : FilterSet) (s : Setting) :
    l.get (Setting.apply f s) = if s.option = .list l then l.get f ++ [s.valueText] else l.get f := by
  cases s with
  | scalar k v => cases l <;> cases k <;> rfl
  | list l' v => cases l <;> cases l' <;> rfl
  | _ => cases l <;> rfl

/-- The limit that a setting leaves where there was another. -/
def Setting.limit (n : UInt32) : Setting → UInt32
  | .maxRecords count => count
  | _ => n

theorem maxRecords_apply (f : FilterSet) (s : Setting) :
    (Setting.apply f s).maxRecords =
      if s.option = .maxRecords then s.limit f.maxRecords else f.maxRecords := by
  cases s with
  | scalar k v => cases k <;> rfl
  | list l v => cases l <;> rfl
  | _ => rfl

section ApplyAll

variable (ss : List Setting) (f : FilterSet)

theorem get_applyAll (k : ScalarFilter) :
    k.get (applyAll ss f) =
      (ofOption (.scalar k) ss).foldl (fun _ s => some s.valueText) (k.get f) :=
  part_applyAll (get_apply k) ss f

theorem listGet_applyAll (l : ListFilter) :
    l.get (applyAll ss f) =
      (ofOption (.list l) ss).foldl (fun vs s => vs ++ [s.valueText]) (l.get f) :=
  part_applyAll (listGet_apply l) ss f

theorem maxRecords_applyAll :
    (applyAll ss f).maxRecords = (ofOption .maxRecords ss).foldl Setting.limit f.maxRecords :=
  part_applyAll maxRecords_apply ss f

end ApplyAll

/-- Settings that have the values of `g` put these over what is there. -/
theorem applyAll_eq_over {g : FilterSet} {ss : List Setting} (f : FilterSet)
    (hscalar : ∀ k, ofOption (.scalar k) ss = (k.get g).toList.map (.scalar k))
    (hlist : ∀ l, ofOption (.list l) ss = (l.get g).map (.list l))
    (hmax : ofOption .maxRecords ss = [.maxRecords g.maxRecords]) : applyAll ss f = g.over f := by
  refine filterSet_ext (fun k => ?_) (fun l => ?_) ?_
  · rw [get_applyAll, hscalar, get_over]
    cases k.get g <;> rfl
  · rw [listGet_applyAll, hlist, listGet_over, List.foldl_map]
    refine List.foldl_append_eq_append.trans (congrArg (l.get f ++ ·) ?_)
    exact List.flatMap_def.symm.trans (List.flatMap_singleton' _)
  · rw [maxRecords_applyAll, hmax]
    rfl

theorem applyAll_eq_self {ss : List Setting} (f : FilterSet)
    (hscalar : ∀ k, ofOption (.scalar k) ss = []) (hlist : ∀ l, ofOption (.list l) ss = [])
    (hmax : ofOption .maxRecords ss = []) : applyAll ss f = f := by
  refine filterSet_ext (fun k => ?_) (fun l => ?_) ?_
  · rw [get_applyAll, hscalar]
    rfl
  · rw [listGet_applyAll, hlist]
    rfl
  · rw [maxRecords_applyAll, hmax]
    rfl

/-! ## What settings say beside the filters -/

/-- Only an option's own settings count for what it says. -/
theorem findSome?_ofOption {α : Type} {o : ValueOption} {value? : Setting → Option α}
    (h : ∀ s, s.option ≠ o → value? s = none) (ss : List Setting) :
    ss.findSome? value? = (ofOption o ss).findSome? value? := by
  induction ss with
  | nil => rfl
  | cons s ss ih =>
    by_cases hs : s.option = o
    · rw [ofOption_cons_self hs, List.findSome?_cons, List.findSome?_cons, ih]
    · rw [ofOption_cons_of_ne hs, List.findSome?_cons, h s hs, ih]

theorem filtersFile?_ofOption (ss : List Setting) :
    filtersFile? ss = filtersFile? (ofOption .filtersFile ss) :=
  findSome?_ofOption (by rintro (_ | _ | _ | _ | _ | _) h <;> first | rfl | exact absurd rfl h) ss

theorem mode?_ofOption (ss : List Setting) : mode? ss = mode? (ofOption .mode ss) :=
  findSome?_ofOption (by rintro (_ | _ | _ | _ | _ | _) h <;> first | rfl | exact absurd rfl h) ss

theorem formatOf_ofOption (ss : List Setting) : formatOf ss = formatOf (ofOption .format ss) := by
  unfold formatOf
  rw [findSome?_ofOption (o := .format) (by
    rintro (_ | _ | _ | _ | _ | _) h <;> first | rfl | exact absurd rfl h) ss]

end CommandLine

end NewsSearch
