import NewsSearch.Query.Compile
import Mathlib.Data.List.Forall2

/-!
# The grammar of compiled queries

A query text is a row of slots, one for each filter that becomes a clause. The grammar says how each
slot is written, from its own filter alone. Compiled filters are written by it, and the parameters
come after all clauses.
-/

namespace NewsSearch.Query

/-! ## The grammar -/

/-- Terms one after another with `OR` between neighbours. -/
inductive Alternatives : List String → String → Prop
  | one (term : String) : Alternatives [term] term
  | more {term : String} {terms : List String} {rest : String} (h : Alternatives terms rest) :
      Alternatives (term :: terms) (term ++ " OR " ++ rest)

/-- A keyword among others. -/
inductive KeywordTerm : String → String → Prop
  | bare {keyword : String} (h : ' ' ∉ keyword.toList) : KeywordTerm keyword keyword
  | quoted {keyword : String} (h : ' ' ∈ keyword.toList) :
      KeywordTerm keyword ("\"" ++ keyword ++ "\"")

/-- A filter that becomes a clause. -/
inductive Slot
  | keywords (keywords : List String)
  /-- Values of a field of the API -/
  | values (field : String) (values : List String)
  /-- A comparison with its sign, after the name of what is compared -/
  | comparison (name : String) (value : Option String)
  /-- A clause as it is -/
  | clause (text : Option String)

namespace Slot

/-- Whether there is nothing in the filter. -/
def IsEmpty : Slot → Prop
  | .keywords ks => ks = []
  | .values _ vs => vs = []
  | .comparison _ v => v = none
  | .clause t => t = none

/-- How a slot is written, if it is. -/
inductive Written : Slot → Option String → Prop
  | noKeyword : Written (.keywords []) none
  | keyword (k : String) : Written (.keywords [k]) (some ("\"" ++ k ++ "\" "))
  | keywords {k k' : String} {ks terms : List String} {text : String}
      (hterms : List.Forall₂ KeywordTerm (k :: k' :: ks) terms) (h : Alternatives terms text) :
      Written (.keywords (k :: k' :: ks)) (some ("(" ++ text ++ ") "))
  | noValue (field : String) : Written (.values field []) none
  | value (field v : String) : Written (.values field [v]) (some (field ++ ":" ++ v ++ " "))
  | values {field v v' : String} {vs : List String} {text : String}
      (h : Alternatives ((v :: v' :: vs).map fun v => field ++ ":" ++ v) text) :
      Written (.values field (v :: v' :: vs)) (some ("(" ++ text ++ ") "))
  | noComparison (name : String) : Written (.comparison name none) none
  | comparison (name v : String) : Written (.comparison name (some v)) (some (name ++ v ++ " "))
  | noClause : Written (.clause none) none
  | clause (text : String) : Written (.clause (some text)) (some text)

end Slot

/-- The slots in the order of the query text. -/
def slots (f : ValidatedFilters) : List Slot :=
  [.keywords f.keywords,
   .values "domain" f.domains,
   .values "domainis" f.domainsExact,
   .values "sourcecountry" f.countries,
   .values "sourcelang" f.languages,
   .values "theme" f.themes,
   .comparison "tone" f.tone,
   .comparison "toneabs" f.toneAbsolute,
   .clause f.near,
   .clause f.repeated]

/-- The parameters of a time window and a limit. -/
inductive ParamsOf : TimeWindow → UInt32 → List (String × String) → Prop
  | range (first last : String) (limit : UInt32) :
      ParamsOf (.range first last) limit
        [("startdatetime", first), ("enddatetime", last), ("maxrecords", Nat.repr limit.toNat)]
  | span (timespan : Timespan) (limit : UInt32) :
      ParamsOf (.span timespan) limit
        [("timespan", timespan.text), ("maxrecords", Nat.repr limit.toNat)]

/-! ## One way to write a slot -/

theorem Alternatives.unique {terms : List String} {a b : String} (ha : Alternatives terms a)
    (hb : Alternatives terms b) : a = b := by
  induction ha generalizing b with
  | one term =>
    cases hb with
    | one => rfl
    | more h => cases h
  | more h ih =>
    cases hb with
    | one => cases h
    | more hb => rw [ih hb]

theorem KeywordTerm.unique {keyword a b : String} (ha : KeywordTerm keyword a)
    (hb : KeywordTerm keyword b) : a = b := by
  cases ha with
  | bare h =>
    cases hb with
    | bare => rfl
    | quoted h' => exact absurd h' h
  | quoted h =>
    cases hb with
    | bare h' => exact absurd h h'
    | quoted => rfl

theorem Slot.Written.unique {slot : Slot} {a b : Option String} (ha : slot.Written a)
    (hb : slot.Written b) : a = b := by
  cases ha with
  | keywords hterms h =>
    cases hb with
    | keywords hterms' h' =>
      have hunique : Relator.RightUnique KeywordTerm := fun _ _ _ => KeywordTerm.unique
      obtain rfl := List.right_unique_forall₂' hunique hterms hterms'
      rw [h.unique h']
  | values h =>
    cases hb with
    | values h' => rw [h.unique h']
  | _ => cases hb; rfl

theorem Slot.written_none_iff {slot : Slot} : slot.Written none ↔ slot.IsEmpty := by
  constructor
  · intro h
    cases h <;> rfl
  · intro h
    cases slot <;> cases h
    · exact .noKeyword
    · exact .noValue _
    · exact .noComparison _
    · exact .noClause

/-! ## The written clauses -/

theorem alternatives_intercalate {terms : List String} (h : terms ≠ []) :
    Alternatives terms (" OR ".intercalate terms) := by
  induction terms with
  | nil => exact absurd rfl h
  | cons term terms ih =>
    cases terms with
    | nil =>
      rw [String.intercalate_singleton]
      exact .one term
    | cons next terms =>
      rw [String.intercalate_cons_cons]
      exact .more (ih (List.cons_ne_nil _ _))

theorem keywordTerm_quoted (k : String) :
    KeywordTerm k (if k.toList.contains ' ' then "\"" ++ k ++ "\"" else k) := by
  split
  case isTrue h => exact .quoted (List.contains_iff_mem.mp h)
  case isFalse h => exact .bare fun hmem => h (List.contains_iff_mem.mpr hmem)

theorem keywordClause_written (ks : List String) :
    Slot.Written (.keywords ks) (keywordClause ks) := by
  match ks with
  | [] => exact .noKeyword
  | [k] => exact .keyword k
  | k :: k' :: ks =>
    refine .keywords ?_ (alternatives_intercalate (List.cons_ne_nil _ _))
    rw [List.forall₂_map_right_iff, List.forall₂_same]
    exact fun k _ => keywordTerm_quoted k

theorem fieldClause_written (field : String) (vs : List String) :
    Slot.Written (.values field vs) (fieldClause field vs) := by
  match vs with
  | [] => exact .noValue field
  | [v] => exact .value field v
  | v :: v' :: vs => exact .values (alternatives_intercalate (List.cons_ne_nil _ _))

theorem comparison_written (name : String) (value : Option String) :
    Slot.Written (.comparison name value) (value.map fun v => name ++ v ++ " ") := by
  cases value with
  | none => exact .noComparison name
  | some v => exact .comparison name v

theorem clause_written (text : Option String) : Slot.Written (.clause text) text := by
  cases text with
  | none => exact .noClause
  | some text => exact .clause text

theorem Slot.exists_written (slot : Slot) : ∃ text, slot.Written text := by
  cases slot with
  | keywords ks => exact ⟨_, keywordClause_written ks⟩
  | values field vs => exact ⟨_, fieldClause_written field vs⟩
  | comparison name v => exact ⟨_, comparison_written name v⟩
  | clause text => exact ⟨_, clause_written text⟩

theorem filterClauses_written (f : ValidatedFilters) :
    ∃ texts, List.Forall₂ Slot.Written (slots f) texts ∧
      filterClauses f = texts.reduceOption :=
  ⟨_,
    .cons (keywordClause_written _) <|
    .cons (fieldClause_written _ _) <|
    .cons (fieldClause_written _ _) <|
    .cons (fieldClause_written _ _) <|
    .cons (fieldClause_written _ _) <|
    .cons (fieldClause_written _ _) <|
    .cons (comparison_written "tone" _) <|
    .cons (comparison_written "toneabs" _) <|
    .cons (clause_written _) <|
    .cons (clause_written _) .nil,
    rfl⟩

theorem paramsOf_filterParams (f : ValidatedFilters) :
    ParamsOf f.window f.maxRecords (filterParams f) := by
  unfold filterParams
  cases f.window with
  | range first last => exact .range first last f.maxRecords
  | span timespan => exact .span timespan f.maxRecords

/-! ## The three views of a query -/

/-- A query of clauses and then parameters. -/
def ofParts (clauses : List String) (params : List (String × String)) : Query :=
  ⟨clauses.map .clause ++ params.map fun p => .param p.1 p.2⟩

section Views

variable (cs : List String) (ps : List (String × String))

theorem clauses_ofParts : (ofParts cs ps).clauses = String.join cs := by
  simp [ofParts, clauses, List.filterMap_map]

theorem params_ofParts : (ofParts cs ps).params = ps := by
  simp [ofParts, params, List.filterMap_map]

theorem text_ofParts :
    (ofParts cs ps).text =
      String.join cs ++ String.join (ps.map fun p => "&" ++ p.1 ++ "=" ++ p.2) := by
  simp [ofParts, text, Function.comp_def, Fragment.text, String.join_append]

end Views

theorem compile_eq_ofParts (f : ValidatedFilters) :
    compile f = ofParts (filterClauses f) (filterParams f) := rfl

theorem paramsOf_compile (f : ValidatedFilters) :
    ParamsOf f.window f.maxRecords (compile f).params := by
  rw [compile_eq_ofParts, params_ofParts]
  exact paramsOf_filterParams f

/-- Compiled filters are written by the grammar, which leaves one way to write each filter and
leaves out the empty ones. The parameters are those of the window and the limit, after all clauses,
and the whole text is the clauses followed by the parameters. -/
theorem compile_follows_grammar (f : ValidatedFilters) :
    (∃ texts, List.Forall₂ Slot.Written (slots f) texts ∧
      (compile f).fragments =
        texts.reduceOption.map .clause ++ (compile f).params.map (fun p => .param p.1 p.2) ∧
      (compile f).clauses = String.join texts.reduceOption) ∧
    (∀ slot : Slot, (∃! text, slot.Written text) ∧ (slot.Written none ↔ slot.IsEmpty)) ∧
    ParamsOf f.window f.maxRecords (compile f).params ∧
    (compile f).text = (compile f).clauses ++
      String.join ((compile f).params.map fun p => "&" ++ p.1 ++ "=" ++ p.2) := by
  obtain ⟨texts, hwritten, htexts⟩ := filterClauses_written f
  refine ⟨⟨texts, hwritten, ?_, ?_⟩, ?_, paramsOf_compile f, ?_⟩
  · rw [compile_eq_ofParts, params_ofParts, ← htexts]
    rfl
  · rw [compile_eq_ofParts, clauses_ofParts, htexts]
  · intro slot
    obtain ⟨text, h⟩ := slot.exists_written
    exact ⟨⟨text, h, fun _ h' => h'.unique h⟩, Slot.written_none_iff⟩
  · rw [compile_eq_ofParts, text_ofParts, clauses_ofParts, params_ofParts]

example :
    (compile ⟨.span ⟨"1", .days, "1d"⟩, ["ai", "chip maker"], ["bbc.com"], [], ["US", "UK"], [], [],
      some ">5", none, none, some "repeat3:\"ai\" ", 250⟩).text =
      "(ai OR \"chip maker\") domain:bbc.com (sourcecountry:US OR sourcecountry:UK) tone>5 " ++
        "repeat3:\"ai\" &timespan=1d&maxrecords=250" := rfl

end NewsSearch.Query
