import NewsSearch.CommandLine.Arguments
import Mathlib.Data.List.TakeWhile

/-!
# Settings as arguments

A setting may be written as one argument, `--name=value`. A command followed by such arguments is
read as exactly these settings, whatever their values hold.
-/

namespace NewsSearch.CommandLine

/-! ## One argument -/

/-- The value of a setting as it is written. -/
def Setting.valueText : Setting → String
  | .filtersFile path => path
  | .scalar _ value => value
  | .list _ value => value
  | .maxRecords count => Nat.repr count.toNat
  | .mode m => m.name
  | .format f => f.name

/-- The setting as one argument. -/
def Setting.argument (s : Setting) : String := "--" ++ s.option.name ++ "=" ++ s.valueText

/-- A setting that can be written. No file is without a name. -/
def Setting.IsWritable (s : Setting) : Prop := s ≠ .filtersFile ""

theorem name_plain (o : ValueOption) :
    o.name.toList ≠ [] ∧ ∀ c ∈ o.name.toList, (c != '=') = true := by
  have hall : o.name.toList ≠ [] ∧ o.name.toList.all (· != '=') = true := by
    cases o with
    | scalar f => cases f <;> exact ⟨by decide, rfl⟩
    | list f => cases f <;> exact ⟨by decide, rfl⟩
    | _ => exact ⟨by decide, rfl⟩
  exact ⟨hall.1, List.all_eq_true.mp hall.2⟩

theorem shape_argument (s : Setting) :
    Shape.of s.argument = .long s.option.name (some s.valueText) := by
  obtain ⟨hne, hplain⟩ := name_plain s.option
  have htext : s.argument.toList = '-' :: '-' :: (s.option.name.toList ++ '=' :: s.valueText.toList) := by
    simp [Setting.argument]
  obtain ⟨c, cs, hname⟩ := List.exists_cons_of_ne_nil hne
  have htake : (s.option.name.toList ++ '=' :: s.valueText.toList).takeWhile (· != '=') =
      s.option.name.toList := by
    rw [List.takeWhile_append_of_pos hplain]
    simp
  have hdrop : (s.option.name.toList ++ '=' :: s.valueText.toList).dropWhile (· != '=') =
      '=' :: s.valueText.toList := by
    rw [List.dropWhile_append_of_pos hplain]
    simp
  unfold Shape.of
  rw [htext]
  rw [hname] at htake hdrop ⊢
  simp only [List.cons_append] at htake hdrop ⊢
  simp only [htake, hdrop]
  rw [← hname, String.ofList_toList, String.ofList_toList]

theorem readCount_repr (n : UInt32) : readCount (Nat.repr n.toNat) = some n := by
  have htext : (Nat.repr n.toNat).toList = Text.decimal n.toNat := by
    simp [Nat.repr, Text.decimal]
  obtain ⟨c, cs, hcs, hc⟩ := Text.exists_decimal_eq_cons n.toNat
  have hminus : c ≠ '-' := by rintro rfl; cases hc
  have hplus : c ≠ '+' := by rintro rfl; cases hc
  have hn : n.toNat < UInt32.size := n.toNat_lt_size
  unfold readCount
  rw [htext, hcs]
  -- neither sign is a digit, so the text is read without one
  split
  rename_i negative digits hsplit
  split at hsplit
  · exact absurd (List.cons.inj ‹_›).1 hminus
  · exact absurd (List.cons.inj ‹_›).1 hplus
  · obtain ⟨rfl, rfl⟩ := Prod.mk.inj hsplit
    rw [← hcs]
    simp only [Text.isDigits_decimal, Text.digitsValue_decimal]
    rw [if_pos ⟨trivial, hn, .inr Bool.false_ne_true⟩]
    exact congrArg some UInt32.ofNat_toNat

theorem read_valueText {s : Setting} (h : s.IsWritable) : s.option.read s.valueText = .ok s := by
  cases s with
  | filtersFile path =>
    have hpath : path ≠ "" := fun he => h (by rw [he])
    simp [Setting.option, Setting.valueText, ValueOption.read, hpath]
  | scalar f value => rfl
  | list f value => rfl
  | maxRecords count => simp [Setting.option, Setting.valueText, ValueOption.read, readCount_repr]
  | mode m => cases m <;> rfl
  | format f => cases f <;> rfl

/-! ## One more argument -/

theorem find_name {command : Command} {o : ValueOption} (h : o ∈ command.options) :
    command.options.find? (·.name == o.name) = some o := by
  revert o
  cases command <;> decide +kernel

/-- Two settings may stand on one command line. -/
def Setting.Together (s t : Setting) : Prop := s.option = t.option → s.option.isRepeatable = true

namespace Progress

/-- The reading after settings that were one argument each. -/
def after (before : List Setting) : Progress := ⟨false, before, none, false⟩

variable {command : Command} {before : List Setting} {s : Setting}

theorem accept_setting (hwritable : s.IsWritable) (h : ∀ t ∈ before, t.Together s) :
    (after before).accept s.option s.valueText = .ok (after (before ++ [s])) := by
  have hnew : ¬ (¬ s.option.isRepeatable = true ∧ before.any (·.option == s.option) = true) := by
    rintro ⟨hrepeat, hany⟩
    obtain ⟨t, ht, heq⟩ := List.any_eq_true.mp hany
    have heq : t.option = s.option := eq_of_beq heq
    exact hrepeat (heq ▸ h t ht heq)
  rw [accept, after, if_neg hnew, read_valueText hwritable]
  rfl

theorem step_argument (hoption : s.option ∈ command.options) (hwritable : s.IsWritable)
    (h : ∀ t ∈ before, t.Together s) :
    (after before).step command.options s.argument = .ok (after (before ++ [s])) := by
  have hlong : (after before).long command.options commandEnds.1 s.option.name (some s.valueText) =
      .ok (after (before ++ [s])) := by
    rw [long, find_name hoption]
    exact accept_setting hwritable h
  unfold step
  rw [shape_argument]
  exact hlong

/-- Every argument adds its setting at the end. -/
theorem readAll_arguments {ss : List Setting} (hoption : ∀ s ∈ ss, s.option ∈ command.options)
    (hwritable : ∀ s ∈ ss, s.IsWritable) (h : (before ++ ss).Pairwise Setting.Together) :
    (after before).readAll command.options (ss.map Setting.argument) =
      .ok (after (before ++ ss)) := by
  induction ss generalizing before with
  | nil => rw [List.append_nil]; rfl
  | cons s ss ih =>
    have hbefore : ∀ t ∈ before, t.Together s := fun t ht =>
      (List.pairwise_append.mp h).2.2 t ht s List.mem_cons_self
    rw [List.map_cons, readAll, step_argument (hoption s List.mem_cons_self)
      (hwritable s List.mem_cons_self) hbefore, Except.bind,
      ih (fun t ht => hoption t (List.mem_cons_of_mem _ ht))
        (fun t ht => hwritable t (List.mem_cons_of_mem _ ht)) (by simpa using h),
      List.append_assoc, List.singleton_append]

end Progress

theorem ofName?_name (command : Command) : Command.ofName? command.name = some command := by
  cases command <;> decide

/-- A command and the arguments for settings that may stand together are read as these settings, in
their order. -/
theorem parse_arguments {command : Command} {ss : List Setting}
    (hoption : ∀ s ∈ ss, s.option ∈ command.options) (hwritable : ∀ s ∈ ss, s.IsWritable)
    (htogether : ss.Pairwise Setting.Together)
    (hmode : command = .timeline → (mode? ss).isSome) :
    Arguments.parse (command.name :: ss.map Setting.argument) = .ok ⟨command, false, ss⟩ := by
  have hread : Progress.start.readAll command.options (ss.map Setting.argument) =
      .ok (.after ss) := Progress.readAll_arguments hoption hwritable htogether
  have hsome : ¬ (command = .timeline ∧ (mode? ss).isNone = true) := by
    rintro ⟨hc, hnone⟩
    exact Option.not_isSome_iff_eq_none.mpr (Option.isNone_iff_eq_none.mp hnone) (hmode hc)
  have hcommand : Arguments.parse (command.name :: ss.map Setting.argument) =
      command.read false (ss.map Setting.argument) := by
    rw [Arguments.parse, readFrom, ofName?_name]
    rfl
  rw [hcommand, Command.read, hread]
  exact if_neg hsome

end NewsSearch.CommandLine
