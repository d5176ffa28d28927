import NewsSearch.Proofs.Query.Grammar
import Mathlib.Data.List.TakeWhile

/-!
# Reading keywords back

A bare keyword has no space, so it ends at the next one even if it is `OR`, empty or a parenthesis.
A quoted keyword ends at the next quote. As long as no keyword holds a quote of its own, this gives
back the keywords of a clause.
-/

namespace NewsSearch.Query

/-! ## The reader -/

/-- The first term and what follows it. -/
def takeTerm : List Char → List Char × List Char
  | '"' :: cs => (cs.takeWhile (· != '"'), (cs.dropWhile (· != '"')).drop 1)
  | cs => (cs.takeWhile (· != ' '), cs.dropWhile (· != ' '))

theorem takeTerm_quote (cs : List Char) :
    takeTerm ('"' :: cs) = (cs.takeWhile (· != '"'), (cs.dropWhile (· != '"')).drop 1) := rfl

theorem length_takeTerm_le (cs : List Char) : (takeTerm cs).2.length ≤ cs.length := by
  unfold takeTerm
  split
  case h_1 cs =>
    have hdrop := (List.dropWhile_suffix (l := cs) (· != '"')).length_le
    simp only [List.length_drop, List.length_cons]
    omega
  case h_2 cs _ => exact (List.dropWhile_suffix _).length_le

/-- The terms with `OR` between neighbours. -/
def readTerms (cs : List Char) : List String :=
  match _ : (takeTerm cs).2 with
  | ' ' :: 'O' :: 'R' :: ' ' :: rest => String.ofList (takeTerm cs).1 :: readTerms rest
  | _ => [String.ofList (takeTerm cs).1]
termination_by cs.length
decreasing_by
  rename_i hrest
  have hle := length_takeTerm_le cs
  rw [hrest] at hle
  simp only [List.length_cons] at hle
  omega

/-- The keywords of a clause. The parenthesis and the space that end a list are left out first. -/
def readKeywords : Option String → List String
  | none => []
  | some clause =>
    match clause.toList with
    | '(' :: cs => readTerms (cs.take (cs.length - 2))
    | cs => [String.ofList (takeTerm cs).1]

/-! ## Terms -/

/-- The keyword holds no quote. -/
def IsUnquoted (keyword : String) : Prop := '"' ∉ keyword.toList

/-- Nothing follows, or a space. -/
def EndsTerm (cs : List Char) : Prop := ∀ c ∈ cs.head?, c = ' '

theorem endsTerm_nil : EndsTerm [] := by simp [EndsTerm]

theorem endsTerm_space (cs : List Char) : EndsTerm (' ' :: cs) := by simp [EndsTerm]

variable {k term : String} {ks terms : List String} {rest : List Char}

theorem bne_of_not_mem {c : Char} {cs : List Char} (h : c ∉ cs) : ∀ d ∈ cs, (d != c) = true := by
  intro d hd
  have hne : d ≠ c := fun heq => h (heq ▸ hd)
  simpa using hne

theorem takeTerm_quoted (hk : IsUnquoted k) (rest : List Char) :
    takeTerm ('"' :: (k.toList ++ '"' :: rest)) = (k.toList, rest) := by
  have hall := bne_of_not_mem hk
  rw [takeTerm_quote, List.takeWhile_append_of_pos hall, List.dropWhile_append_of_pos hall]
  simp

theorem takeTerm_bare (hk : IsUnquoted k) (hspace : ' ' ∉ k.toList) (hrest : EndsTerm rest) :
    takeTerm (k.toList ++ rest) = (k.toList, rest) := by
  have hall := bne_of_not_mem hspace
  unfold takeTerm
  split
  case h_1 cs heq =>
    -- A bare keyword does not start with a quote, and neither does what follows an empty one.
    exfalso
    cases hcs : k.toList with
    | nil =>
      rw [hcs, List.nil_append] at heq
      have hspace := hrest '"' (by simp [heq])
      cases hspace
    | cons c _ =>
      rw [hcs, List.cons_append] at heq
      obtain ⟨rfl, -⟩ := List.cons.inj heq
      exact hk (by simp [hcs])
  case h_2 =>
    rw [List.takeWhile_append_of_pos hall, List.dropWhile_append_of_pos hall]
    cases rest with
    | nil => simp
    | cons c rest => simp [hrest c rfl]

theorem takeTerm_append (hk : IsUnquoted k) (h : KeywordTerm k term) (hrest : EndsTerm rest) :
    takeTerm (term.toList ++ rest) = (k.toList, rest) := by
  cases h with
  | bare hspace => exact takeTerm_bare hk hspace hrest
  | quoted =>
    have htext : ("\"" ++ k ++ "\"").toList ++ rest = '"' :: (k.toList ++ '"' :: rest) := by simp
    rw [htext]
    exact takeTerm_quoted hk rest

/-! ## Clauses -/

theorem readTerms_alternatives {text : String} (h : Alternatives terms text)
    (hks : ∀ k ∈ ks, IsUnquoted k) (hterms : List.Forall₂ KeywordTerm ks terms) :
    readTerms text.toList = ks := by
  induction h generalizing ks with
  | one term =>
    cases hterms with
    | cons hterm hnil =>
      cases hnil
      have htake := takeTerm_append (hks _ List.mem_cons_self) hterm endsTerm_nil
      rw [List.append_nil] at htake
      rw [readTerms, htake]
      simp
  | @more term _ rest _ ih =>
    cases hterms with
    | cons hterm hterms =>
      obtain ⟨hk, hks⟩ := List.forall_mem_cons.mp hks
      have htext : (term ++ " OR " ++ rest).toList =
          term.toList ++ ' ' :: 'O' :: 'R' :: ' ' :: rest.toList := by simp
      have htake := takeTerm_append hk hterm (endsTerm_space ('O' :: 'R' :: ' ' :: rest.toList))
      rw [htext, readTerms, htake]
      simp [ih hks hterms]

theorem readKeywords_written {clause : Option String} (hks : ∀ k ∈ ks, IsUnquoted k)
    (h : Slot.Written (.keywords ks) clause) : readKeywords clause = ks := by
  cases h with
  | noKeyword => rfl
  | keyword k =>
    have htext : ("\"" ++ k ++ "\" ").toList = '"' :: (k.toList ++ '"' :: [' ']) := by simp
    have htake := takeTerm_quoted (hks k List.mem_cons_self) [' ']
    unfold readKeywords
    dsimp only
    rw [htext]
    change [String.ofList (takeTerm ('"' :: (k.toList ++ '"' :: [' ']))).1] = [k]
    rw [htake, String.ofList_toList]
  | @keywords _ _ _ _ text hterms h =>
    have htext : ("(" ++ text ++ ") ").toList = '(' :: (text.toList ++ [')', ' ']) := by simp
    unfold readKeywords
    simp only [htext]
    rw [List.take_left' (by simp)]
    exact readTerms_alternatives h hks hterms

/-- The keywords can be read back from their clause as long as none of them holds a quote, whatever
else they hold. So different keywords with the same clause hold a quote somewhere. -/
theorem keywordClause_reads_back (ks ks' : List String) :
    ((∀ k ∈ ks, '"' ∉ k.toList) → readKeywords (keywordClause ks) = ks) ∧
    (keywordClause ks = keywordClause ks' → ks ≠ ks' → ∃ k ∈ ks ++ ks', '"' ∈ k.toList) := by
  have hback {ks : List String} (hks : ∀ k ∈ ks, IsUnquoted k) :
      readKeywords (keywordClause ks) = ks :=
    readKeywords_written hks (keywordClause_written ks)
  refine ⟨hback, fun hclause hne => ?_⟩
  by_contra hnone
  have hplain : ∀ k ∈ ks ++ ks', IsUnquoted k := fun k hk hquote => hnone ⟨k, hk, hquote⟩
  obtain ⟨hks, hks'⟩ := List.forall_mem_append.mp hplain
  apply hne
  calc ks = readKeywords (keywordClause ks) := (hback hks).symm
    _ = readKeywords (keywordClause ks') := by rw [hclause]
    _ = ks' := hback hks'

/-- A quote of its own can make a bare keyword look like part of a quoted one. -/
example : keywordClause ["a", "\"b", "c\""] = keywordClause ["a", "b OR c"] := rfl

end NewsSearch.Query
