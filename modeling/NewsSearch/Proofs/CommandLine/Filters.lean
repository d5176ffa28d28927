import NewsSearch.CommandLine.Run
import NewsSearch.Proofs.CommandLine.Settings
import NewsSearch.Proofs.Decode.RoundTrip

/-!
# Filters from a file and from flags

A filter set may stand in a file, in flags, or partly in each. `filters_combine` says what a command
makes of them, in whatever order the flags and the file are given.
-/

namespace NewsSearch.CommandLine

/-- What a command line has: the name of a filters file, filters in flags, and the mode of a
timeline. -/
structure Given where
  file : Option String
  flags : Option FilterSet
  mode : TimelineMode

/-- The settings of one option. -/
def Given.values (given : Given) : ValueOption → List Setting
  | .filtersFile => given.file.toList.map .filtersFile
  | .scalar k => (given.flags.bind k.get).toList.map (.scalar k)
  | .list l => (given.flags.elim [] l.get).map (.list l)
  | .maxRecords => given.flags.toList.map fun g => .maxRecords g.maxRecords
  | .mode => [.mode given.mode]
  | .format => []

/-- The settings of a command, one option after another. -/
def Given.settings (given : Given) (command : Command) : List Setting :=
  command.options.flatMap given.values

/-- The same settings in any order that keeps the values of each list option in theirs. -/
structure Rearranges (base ss : List Setting) : Prop where
  perm : ss.Perm base
  lists : ∀ l, ofOption (.list l) ss = ofOption (.list l) base

/-! ## The settings of each option -/

variable {given : Given} {command : Command} {ss : List Setting}

theorem option_of_mem_values {o : ValueOption} {s : Setting} (h : s ∈ given.values o) :
    s.option = o := by
  cases o with
  | format => cases h
  | mode => rw [List.mem_singleton.mp h]; rfl
  | _ =>
    obtain ⟨_, -, rfl⟩ := List.mem_map.mp h
    rfl

theorem ofOption_values_self (o : ValueOption) : ofOption o (given.values o) = given.values o :=
  List.filter_eq_self.mpr fun _ hs => beq_iff_eq.mpr (option_of_mem_values hs)

theorem ofOption_values_of_ne {o o' : ValueOption} (h : o' ≠ o) :
    ofOption o (given.values o') = [] :=
  List.filter_eq_nil_iff.mpr fun _ hs ho =>
    h ((option_of_mem_values hs).symm.trans (beq_iff_eq.mp ho))

theorem ofOption_flatMap_values {os : List ValueOption} (h : os.Nodup) (o : ValueOption) :
    ofOption o (os.flatMap given.values) = if o ∈ os then given.values o else [] := by
  induction os with
  | nil => rfl
  | cons o' os ih =>
    obtain ⟨hnot, hnodup⟩ := List.nodup_cons.mp h
    have happend : ofOption o ((o' :: os).flatMap given.values) =
        ofOption o (given.values o') ++ ofOption o (os.flatMap given.values) := by
      simp [ofOption]
    rw [happend, ih hnodup]
    by_cases ho : o' = o
    · subst ho
      rw [ofOption_values_self, if_neg hnot, if_pos List.mem_cons_self, List.append_nil]
    · have hmem : o ∈ o' :: os ↔ o ∈ os :=
        ⟨fun h => (List.mem_cons.mp h).resolve_left (Ne.symm ho), List.mem_cons_of_mem _⟩
      simp only [ofOption_values_of_ne ho, List.nil_append, hmem]

theorem ofOption_settings (command : Command) (o : ValueOption) :
    ofOption o (given.settings command) = if o ∈ command.options then given.values o else [] :=
  ofOption_flatMap_values (by cases command <;> decide) o

theorem length_values_le {o : ValueOption} (h : o.isRepeatable = false) :
    (given.values o).length ≤ 1 := by
  cases o with
  | list l => cases h
  | scalar k => cases hv : given.flags.bind k.get <;> simp [Given.values, hv]
  | filtersFile => cases hv : given.file <;> simp [Given.values, hv]
  | maxRecords => cases hv : given.flags <;> simp [Given.values, hv]
  | mode => exact Nat.le_refl 1
  | format => exact Nat.zero_le 1

theorem eq_of_perm_of_length_le_one {α : Type} {xs ys : List α} (h : xs.Perm ys)
    (hlength : ys.length ≤ 1) : xs = ys := by
  match ys with
  | [] => exact h.eq_nil
  | [y] => exact List.perm_singleton.mp h

namespace Rearranges

variable (h : Rearranges (given.settings command) ss)

include h

/-- No order but that of the list options' values can be seen. -/
theorem ofOption_eq (o : ValueOption) :
    ofOption o ss = if o ∈ command.options then given.values o else [] := by
  rw [← ofOption_settings]
  cases hrepeat : o.isRepeatable with
  | false =>
    -- such an option has at most one setting, so there is one order only
    have hlength : (ofOption o (given.settings command)).length ≤ 1 := by
      rw [ofOption_settings]
      split
      · exact length_values_le hrepeat
      · exact Nat.zero_le 1
    exact eq_of_perm_of_length_le_one (h.perm.filter _) hlength
  | true =>
    cases o with
    | list l => exact h.lists l
    | _ => cases hrepeat

theorem mem_values {s : Setting} (hs : s ∈ ss) :
    s.option ∈ command.options ∧ s ∈ given.values s.option := by
  obtain ⟨o, ho, hvalue⟩ := List.mem_flatMap.mp (h.perm.mem_iff.mp hs)
  obtain rfl := option_of_mem_values hvalue
  exact ⟨ho, hvalue⟩

end Rearranges

theorem pairwise_together (h : ∀ o, o.isRepeatable = false → (ofOption o ss).length ≤ 1) :
    ss.Pairwise Setting.Together := by
  induction ss with
  | nil => exact .nil
  | cons s ss ih =>
    refine List.pairwise_cons.mpr ⟨fun t ht heq => ?_, ih fun o ho => ?_⟩
    · -- another setting of the same option makes two
      by_contra hrepeat
      have hone := h s.option (Bool.eq_false_iff.mpr hrepeat)
      have hmem : t ∈ ofOption s.option ss := List.mem_filter.mpr ⟨ht, beq_iff_eq.mpr heq.symm⟩
      rw [ofOption_cons_self rfl, List.length_cons] at hone
      have hpos := List.length_pos_of_mem hmem
      omega
    · have hsublist : (ofOption o ss).Sublist (ofOption o (s :: ss)) :=
        (List.sublist_cons_self s ss).filter _
      exact hsublist.length_le.trans (h o ho)

/-! ## Commands -/

theorem mem_options {command : Command} {o : ValueOption} (h : o ∈ filterOptions) :
    o ∈ command.options := by
  cases command with
  | query => exact h
  | _ => exact List.mem_cons_of_mem _ h

theorem scalar_mem_filterOptions (k : ScalarFilter) : .scalar k ∈ filterOptions := by
  cases k <;> decide

theorem list_mem_filterOptions (l : ListFilter) : .list l ∈ filterOptions := by
  cases l <;> decide

/-- The filters of the file under those in the flags. -/
def Given.over (given : Given) (base : FilterSet) : FilterSet := given.flags.elim base (·.over base)

namespace Rearranges

variable (h : Rearranges (given.settings command) ss)

include h

theorem filtersFile?_eq : filtersFile? ss = given.file := by
  rw [filtersFile?_ofOption, h.ofOption_eq, if_pos (mem_options (by decide)), Given.values]
  cases given.file <;> rfl

theorem mode?_eq (hcommand : command = .timeline) : mode? ss = some given.mode := by
  subst hcommand
  rw [mode?_ofOption, h.ofOption_eq, if_pos (by decide)]
  rfl

theorem formatOf_eq : formatOf ss = .json := by
  rw [formatOf_ofOption, h.ofOption_eq, Given.values, ite_self]
  rfl

theorem applyAll_eq (base : FilterSet) : applyAll ss base = given.over base := by
  have hscalar (k : ScalarFilter) : ofOption (.scalar k) ss = given.values (.scalar k) := by
    rw [h.ofOption_eq, if_pos (mem_options (scalar_mem_filterOptions k))]
  have hlist (l : ListFilter) : ofOption (.list l) ss = given.values (.list l) := by
    rw [h.ofOption_eq, if_pos (mem_options (list_mem_filterOptions l))]
  have hmax : ofOption .maxRecords ss = given.values .maxRecords := by
    rw [h.ofOption_eq, if_pos (mem_options (by decide))]
  obtain ⟨file, flags, mode⟩ := given
  cases flags with
  | none => exact applyAll_eq_self base hscalar hlist hmax
  | some g => exact applyAll_eq_over base hscalar hlist hmax

theorem parse_eq (hfile : given.file ≠ some "") :
    Arguments.parse (command.name :: ss.map Setting.argument) = .ok ⟨command, false, ss⟩ := by
  refine parse_arguments (fun s hs => (h.mem_values hs).1) (fun s hs => ?_)
    (pairwise_together fun o ho => ?_) fun hc => by rw [h.mode?_eq hc]; rfl
  · rintro rfl
    obtain ⟨path, hpath, heq⟩ := List.mem_map.mp (h.mem_values hs).2
    obtain rfl := Setting.filtersFile.inj heq
    exact hfile (Option.mem_toList.mp hpath)
  · rw [h.ofOption_eq]
    split
    · exact length_values_le ho
    · exact Nat.zero_le 1

end Rearranges

/-- What a command comes to if it is given its filters as they are. -/
def Command.outcome (command : Command) (m : TimelineMode) (f : FilterSet) (around : Surroundings) :
    Outcome :=
  match command with
  | .articles => (runSearch (.articles f) .json around).outcome
  | .timeline => (runSearch (.timeline m f) .json around).outcome
  | .lastHour => (runSearch (.lastHour (some f)) .json around).outcome
  | .query =>
    match f.query with
    | .ok q => ⟨0, q.text ++ "\n", none, []⟩
    | .error e => ⟨1, "", some (.search (.filters e)), []⟩

/-- A command's arguments are read, and mean these filters. -/
structure ReadsAs (around : Surroundings) (command : Command) (m : TimelineMode)
    (ss : List Setting) (f : FilterSet) : Prop where
  parsed : Arguments.parse (command.name :: ss.map Setting.argument) = .ok ⟨command, false, ss⟩
  filters : filterSet around.file ss = .ok f
  outcome : run (command.name :: ss.map Setting.argument) around = command.outcome m f around

theorem Rearranges.readsAs {around : Surroundings} {base : FilterSet}
    (h : Rearranges (given.settings command) ss) (hfile : given.file ≠ some "")
    (hbase : baseFilters around.file ss = .ok base) :
    ReadsAs around command given.mode ss (given.over base) := by
  have hparsed := h.parse_eq hfile
  have hfilters : filterSet around.file ss = .ok (given.over base) := by
    rw [filterSet, hbase, ← h.applyAll_eq]
    rfl
  refine ⟨hparsed, hfilters, ?_⟩
  rw [run, hparsed]
  simp only [Arguments.run, hfilters]
  cases command with
  | articles => rw [Arguments.search?, h.formatOf_eq]; rfl
  | timeline => rw [Arguments.search?, h.mode?_eq rfl, h.formatOf_eq]; rfl
  | lastHour => rw [Arguments.search?, h.formatOf_eq]; rfl
  | query =>
    rw [Arguments.search?, Command.outcome]
    cases (given.over base).query <;> rfl

theorem Rearranges.readsAs_of_file {around : Surroundings} {path text : String} {f : FilterSet}
    (h : Rearranges (given.settings command) ss) (hgiven : given.file = some path)
    (hpath : path ≠ "") (hfile : around.file path = some text)
    (htext : text = f.toValue.compact ∨ text = f.toValue.pretty) :
    ReadsAs around command given.mode ss (given.over f) := by
  refine h.readsAs (by simpa [hgiven] using hpath) ?_
  have hdecode : FilterSet.decode text = .ok f := by
    obtain rfl | rfl := htext
    · exact (decode_filterSet f).1
    · exact (decode_filterSet f).2
  rw [baseFilters, h.filtersFile?_eq, hgiven]
  simp only [hfile, hdecode]
  rfl

theorem Rearranges.readsAs_of_flags {around : Surroundings}
    (h : Rearranges (given.settings command) ss) (hgiven : given.file = none) :
    ReadsAs around command given.mode ss (given.over .empty) := by
  refine h.readsAs (by simp [hgiven]) ?_
  rw [baseFilters, h.filtersFile?_eq, hgiven]

/-- Flags alone give a command just the filters they are for. With a file that has been printed for
`f` and flags for `g`, in any order, it has the filters `g` over `f`, and the file alone gives `f`, so
it makes no difference in which of these ways a command is given its filters. -/
theorem filters_combine (around : Surroundings) (command : Command) (m : TimelineMode)
    (f g : FilterSet) :
    (∀ ss, Rearranges (Given.settings ⟨none, some g, m⟩ command) ss →
      ReadsAs around command m ss g) ∧
    ∀ path text, path ≠ "" → around.file path = some text →
      text = f.toValue.compact ∨ text = f.toValue.pretty →
      (∀ ss, Rearranges (Given.settings ⟨some path, some g, m⟩ command) ss →
        ReadsAs around command m ss (g.over f)) ∧
      (∀ ss, Rearranges (Given.settings ⟨some path, none, m⟩ command) ss →
        ReadsAs around command m ss f) ∧
      ∀ ss ss', Rearranges (Given.settings ⟨none, some f, m⟩ command) ss →
        Rearranges (Given.settings ⟨some path, none, m⟩ command) ss' →
        run (command.name :: ss.map Setting.argument) around = command.outcome m f around ∧
        run (command.name :: ss'.map Setting.argument) around = command.outcome m f around := by
  have hflags (g : FilterSet) (ss : List Setting)
      (h : Rearranges (Given.settings ⟨none, some g, m⟩ command) ss) :
      ReadsAs around command m ss g := by
    have h := @Rearranges.readsAs_of_flags _ _ _ around h rfl
    rwa [Given.over, Option.elim_some, g.over_empty] at h
  refine ⟨hflags g, fun path text hpath hfile htext => ?_⟩
  refine ⟨fun ss h => ?_, fun ss h => ?_, fun ss ss' h h' => ⟨?_, ?_⟩⟩
  · exact h.readsAs_of_file rfl hpath hfile htext
  · exact h.readsAs_of_file rfl hpath hfile htext
  · exact (hflags f ss h).outcome
  · exact (h'.readsAs_of_file rfl hpath hfile htext).outcome

theorem filters_combine_mixed :
    let f : FilterSet := { FilterSet.ofTimespan "1d" with keywords := ["ai"], maxRecords := 20 }
    let around : Surroundings :=
      ⟨fun _ => none, fun path => if path = "f.json" then some f.toValue.pretty else none,
        fun _ => .dropped⟩
    let ss : List Setting :=
      [.list .keyword "robots", .maxRecords 250, .filtersFile "f.json", .list .keyword "chips",
        .mode .rawVolume, .scalar .timespan "2h"]
    Arguments.parse ["timeline", "--keyword=robots", "--max-records=250", "--filters=f.json",
        "--keyword=chips", "--mode=timelinevolraw", "--timespan=2h"] =
      .ok ⟨.timeline, false, ss⟩ ∧
    filterSet around.file ss =
      .ok { FilterSet.ofTimespan "2h" with keywords := ["ai", "robots", "chips"] } := by
  intro f around ss
  have hcombine := (filters_combine around .timeline .rawVolume f
    { FilterSet.ofTimespan "2h" with keywords := ["robots", "chips"] }).2 "f.json"
    f.toValue.pretty (by decide) rfl (.inr rfl)
  have h := hcombine.1 ss ⟨by decide, fun l => by cases l <;> decide⟩
  exact ⟨h.parsed, h.filters⟩

end NewsSearch.CommandLine
