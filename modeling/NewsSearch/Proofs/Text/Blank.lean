import NewsSearch.Text.Blank
import Mathlib.Data.List.TakeWhile

/-!
# Texts between blanks

A text that is not all blank is one without blanks at its ends and blanks around it. Trimming gives
back the one in the middle.
-/

namespace NewsSearch.Text

theorem isDigit_bounds {c : Char} (h : c.isDigit) : 48 ≤ c.toNat ∧ c.toNat ≤ 57 := by
  simpa [Char.isDigit, UInt32.le_iff_toNat_le] using h

theorem isBlank_of_isDigit {c : Char} (h : c.isDigit) : isBlank c = false := by
  have hr := isDigit_bounds h
  have hall : ∀ k ∈ blankPoints, ¬ (48 ≤ k ∧ k ≤ 57) := by decide
  simp only [isBlank, List.contains_eq_mem, decide_eq_false_iff_not]
  exact fun hmem => hall _ hmem hr

theorem trimStart_cons {c : Char} (h : isBlank c = false) (cs : List Char) :
    trimStart (c :: cs) = c :: cs :=
  List.dropWhile_cons_of_neg (by simp [h])

/-- The text starts with a character that is not blank. -/
def StartsInked (cs : List Char) : Prop := ∃ c rest, cs = c :: rest ∧ isBlank c = false

/-- There are no blanks at the ends. -/
def IsTrimmed (cs : List Char) : Prop := StartsInked cs ∧ StartsInked cs.reverse

theorem StartsInked.append {cs : List Char} (h : StartsInked cs) (rest : List Char) :
    StartsInked (cs ++ rest) := by
  obtain ⟨c, tail, rfl, hc⟩ := h
  exact ⟨c, tail ++ rest, rfl, hc⟩

theorem StartsInked.reverse_append {cs : List Char} (h : StartsInked cs.reverse)
    (rest : List Char) : StartsInked (rest ++ cs).reverse := by
  rw [List.reverse_append]
  exact h.append _

theorem StartsInked.trimStart_append {pre cs : List Char} (h : StartsInked cs)
    (hpre : ∀ c ∈ pre, isBlank c) : trimStart (pre ++ cs) = cs := by
  obtain ⟨c, rest, rfl, hc⟩ := h
  rw [trimStart, List.dropWhile_append_of_pos hpre]
  exact trimStart_cons hc rest

theorem IsTrimmed.trim_append {pre cs post : List Char} (h : IsTrimmed cs)
    (hpre : ∀ c ∈ pre, isBlank c) (hpost : ∀ c ∈ post, isBlank c) :
    (trim (String.ofList (pre ++ cs ++ post))).toList = cs := by
  have hstart : trimStart (pre ++ cs ++ post) = cs ++ post := by
    rw [List.append_assoc]
    exact (h.1.append post).trimStart_append hpre
  have hend : trimStart (cs ++ post).reverse = cs.reverse := by
    rw [List.reverse_append]
    exact h.2.trimStart_append fun c hc => hpost c (List.mem_reverse.mp hc)
  rw [trim, String.toList_ofList, String.toList_ofList, hstart, hend, List.reverse_reverse]

theorem isTrimmed_append {cs ds : List Char} (hcs : StartsInked cs) (hds : StartsInked ds.reverse)
    (mid : List Char) : IsTrimmed (cs ++ (mid ++ ds)) := by
  refine ⟨hcs.append _, ?_⟩
  rw [← List.append_assoc]
  exact hds.reverse_append _

theorem IsTrimmed.trim_eq {s : String} (h : IsTrimmed s.toList) : trim s = s := by
  have hnone : ∀ c ∈ ([] : List Char), isBlank c := by simp
  have htrim := h.trim_append hnone hnone
  rw [List.nil_append, List.append_nil, String.ofList_toList] at htrim
  exact String.toList_inj.mp htrim

theorem StartsInked.of_append {cs rest : List Char} (h : StartsInked (cs ++ rest)) (hne : cs ≠ []) :
    StartsInked cs := by
  obtain ⟨c, tail, heq, hc⟩ := h
  obtain ⟨d, cs, rfl⟩ := List.exists_cons_of_ne_nil hne
  obtain ⟨rfl, -⟩ := List.cons.inj heq
  exact ⟨d, cs, rfl, hc⟩

theorem exists_blank_append {cs : List Char} (h : ∃ c ∈ cs, isBlank c = false) :
    ∃ blanks, cs = blanks ++ trimStart cs ∧ (∀ c ∈ blanks, isBlank c) ∧
      StartsInked (trimStart cs) := by
  refine ⟨cs.takeWhile isBlank, List.takeWhile_append_dropWhile.symm, fun c hc => ?_, ?_⟩
  · exact List.mem_takeWhile_imp hc
  · unfold trimStart
    induction cs with
    | nil => simp at h
    | cons c cs ih =>
      cases hc : isBlank c with
      | false =>
        rw [List.dropWhile_cons_of_neg (by simp [hc])]
        exact ⟨c, cs, rfl, hc⟩
      | true =>
        rw [List.dropWhile_cons_of_pos hc]
        exact ih (by simpa [hc] using h)

/-- The text is the other one with blanks around it. -/
def TrimsTo (text core : String) : Prop :=
  ∃ before after, text.toList = before ++ core.toList ++ after ∧ (∀ c ∈ before, isBlank c) ∧
    (∀ c ∈ after, isBlank c) ∧ IsTrimmed core.toList

theorem trimsTo_trim {text : String} (h : allBlank text = false) : TrimsTo text (trim text) := by
  have hink : ∃ c ∈ text.toList, isBlank c = false := by
    simpa [allBlank] using h
  obtain ⟨before, hbefore, hblank, hstart⟩ := exists_blank_append hink
  have hink' : ∃ c ∈ (trimStart text.toList).reverse, isBlank c = false := by
    obtain ⟨c, cs, heq, hc⟩ := hstart
    exact ⟨c, by simp [heq], hc⟩
  obtain ⟨after, hafter, hblank', hend⟩ := exists_blank_append hink'
  have hcore : (trim text).toList = (trimStart (trimStart text.toList).reverse).reverse := by
    rw [trim, String.toList_ofList]
  have hsplit : trimStart text.toList = (trim text).toList ++ after.reverse := by
    rw [hcore, ← List.reverse_append, ← hafter, List.reverse_reverse]
  have hne : (trim text).toList ≠ [] := by
    obtain ⟨c, cs, heq, -⟩ := hend
    simp [hcore, heq]
  refine ⟨before, after.reverse, ?_, hblank, fun c hc => hblank' c (List.mem_reverse.mp hc), ?_, ?_⟩
  · rw [List.append_assoc, ← hsplit]
    exact hbefore
  · rw [hsplit] at hstart
    exact hstart.of_append hne
  · rw [hcore, List.reverse_reverse]
    exact hend

theorem trimsTo_iff {text core : String} :
    TrimsTo text core ↔ allBlank text = false ∧ trim text = core := by
  constructor
  · rintro ⟨before, after, heq, hbefore, hafter, hcore⟩
    constructor
    · obtain ⟨c, cs, hcs, hc⟩ := hcore.1
      have hmem : c ∈ text.toList := by simp [heq, hcs]
      rw [allBlank, List.all_eq_false]
      exact ⟨c, hmem, by simp [hc]⟩
    · have htrim := hcore.trim_append hbefore hafter
      rw [← heq, String.ofList_toList] at htrim
      exact String.toList_inj.mp htrim
  · rintro ⟨h, rfl⟩
    exact trimsTo_trim h

end NewsSearch.Text
