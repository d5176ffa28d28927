import NewsSearch.Filter.FilterSet
import NewsSearch.Proofs.Decode.Objects
import NewsSearch.Proofs.Json.Members

/-!
# Filter sets from members in any order

What a text says of a filter set is a list of members. Their order does not matter, nor whether a
field goes by its name or by the older one, nor the members that stand for no field. A field may be
given once, and what is not given is as in the empty filter set.
-/

namespace NewsSearch.FilterSet

open Json Json.Grammar Decode

/-! ## Names -/

def names : List String :=
  ["start_date", "end_date", "timespan", "keywords", "domains", "domains_exact", "countries",
   "languages", "themes", "tone", "tone_absolute", "near", "repeat", "max_records"]

/-- Older names, and the ones that have taken their place. -/
def olderNames : List (String × String) :=
  [("keyword", "keywords"), ("domain", "domains"), ("domain_exact", "domains_exact"),
   ("country", "countries"), ("language", "languages"), ("theme", "themes"),
   ("num_records", "max_records")]

/-- The name of the field that a key stands for. -/
def nameOf? (key : String) : Option String :=
  if key ∈ names then some key else get? key olderNames

def allNames : List String := names ++ olderNames.map Prod.fst

theorem nameOf?_eq_none {key : String} (h : key ∉ allNames) : nameOf? key = none := by
  rw [allNames, List.mem_append, not_or] at h
  rw [nameOf?, if_neg h.1, get?_eq_none_iff]
  exact h.2

theorem name_of_find? (key : String) :
    (fields.find? (·.answersTo key)).map (·.name) = nameOf? key := by
  by_cases hkey : key ∈ allNames
  · have hall : ∀ key ∈ allNames,
        (fields.find? (·.answersTo key)).map (·.name) = nameOf? key := by decide
    exact hall key hkey
  · have hnames : ∀ f ∈ fields, ∀ name ∈ f.name :: f.aliases, name ∈ allNames := by decide
    have hnone : fields.find? (·.answersTo key) = none := by
      refine List.find?_eq_none.mpr fun f hf hanswers => hkey ?_
      exact hnames f hf key (Field.answersTo_iff.mp hanswers)
    rw [hnone, nameOf?_eq_none hkey, Option.map_none]

theorem nodup_names : (fields.map (·.name)).Nodup := by decide

theorem find?_congr {key key' : String} (h : nameOf? key = nameOf? key') :
    fields.find? (·.answersTo key) = fields.find? (·.answersTo key') := by
  rw [← name_of_find?, ← name_of_find?] at h
  -- No two fields have one name, so the name found gives back the field.
  cases hf : fields.find? (·.answersTo key) with
  | none =>
    rw [hf, Option.map_none] at h
    exact (Option.map_eq_none_iff.mp h.symm).symm
  | some f =>
    rw [hf, Option.map_some] at h
    obtain ⟨g, hg, hname⟩ := Option.map_eq_some_iff.mp h.symm
    rw [hg, List.inj_on_of_nodup_map nodup_names (List.mem_of_find?_eq_some hf)
      (List.mem_of_find?_eq_some hg) hname.symm]

/-! ## Parts -/

def members (f : FilterSet) : Members :=
  match f.toValue with
  | .object ms => ms
  | _ => []

/-- The part of a filter set that goes by a name. -/
def part? (f : FilterSet) (name : String) : Option Value := get? name f.members

/-- The field changes its own part and no other. -/
def Puts (f : Decode.Field FilterSet) : Prop :=
  ∀ u, f.Makes u → ∀ s, ∃ v, (u s).members = put f.name v s.members

theorem puts_of {α : Type} {name : String} {aliases : List String} {d : Decoder α}
    {set : α → FilterSet → FilterSet} (encode : α → Value)
    (h : ∀ a s, (set a s).members = put name (encode a) s.members) :
    Puts (.of name aliases d set) := by
  intro u hu s
  obtain ⟨a, rfl⟩ := Field.makes_of hu
  exact ⟨encode a, h a s⟩

theorem puts_fields : ∀ f ∈ fields, Puts f := by
  simp only [fields, List.forall_mem_cons, List.not_mem_nil, false_imp_iff, implies_true, and_true]
  and_intros <;> first
    | exact puts_of textValue fun _ _ => rfl
    | exact puts_of listValue fun _ _ => rfl
    | exact puts_of (fun n => .number (.integer n.toNat)) fun _ _ => rfl

theorem independent_fields : Record.Independent fields := by
  simp only [Record.Independent, fields, List.pairwise_cons, List.mem_cons, forall_eq_or_imp,
    List.not_mem_nil, false_imp_iff, implies_true, List.Pairwise.nil, and_true]
  and_intros <;> exact Field.apart_of fun _ _ _ => rfl

theorem settles_fields : ∀ f ∈ fields, ∀ cs, IsText .value cs →
    f.update.Settles (Reader.maxOpen - 1) cs := by
  have htext {cs : List Char} (hcs : IsText .value cs) : text.Settles (Reader.maxOpen - 1) cs :=
    settles_nullable (fun _ => settles_string) hcs
  have htexts {cs : List Char} (hcs : IsText .value cs) : texts.Settles (Reader.maxOpen - 1) cs :=
    settles_list (fun _ => settles_string) hcs
  simp only [fields, List.forall_mem_cons, List.not_mem_nil, false_imp_iff, implies_true, and_true]
  and_intros <;> intro cs hcs <;> first
    | exact settles_of (htext hcs)
    | exact settles_of (htexts hcs)
    | exact settles_of (settles_uint32 hcs)

/-! ## Members -/

/-- The same value under the same name, or under one that stands for the same field. -/
structure Respelled (m m' : MemberText) : Prop where
  value : m'.value = m.value
  key : m'.key = m.key ∨ (m.key, m'.key) ∈ olderNames ∨ (m'.key, m.key) ∈ olderNames

/-- In another order, and some of them under their other names. -/
def SameMembers (ms ms' : List MemberText) : Prop :=
  ∃ ms₁, ms.Perm ms₁ ∧ List.Forall₂ Respelled ms₁ ms'

/-- The members that stand for a field. -/
def known (ms : List MemberText) : List MemberText := ms.filter fun m => (nameOf? m.key).isSome

/-- What a member of a whole text does to a filter set. -/
def effect? (m : MemberText) : Option (Effect FilterSet) :=
  Record.textEffect? fields (Reader.maxOpen - 1) m

variable {ms ms' : List MemberText} {text text' : String} {f : FilterSet}

theorem decode_iff (h : IsObject ms text) :
    decode text = .ok f ↔ Effect.perform [] empty (ms.filterMap effect?) = some f := by
  have hdecode := Record.decode_toOption (r := record) settles_fields h
  rw [← toOption_eq_some]
  exact Eq.congr_left hdecode

theorem Respelled.nameOf?_eq {m m' : MemberText} (h : Respelled m m') :
    nameOf? m'.key = nameOf? m.key := by
  have holder : ∀ p ∈ olderNames, nameOf? p.1 = nameOf? p.2 := by decide
  rcases h.key with hkey | hkey | hkey
  · rw [hkey]
  · exact (holder _ hkey).symm
  · exact holder _ hkey

theorem Respelled.effect?_eq {m m' : MemberText} (h : Respelled m m') : effect? m' = effect? m := by
  unfold effect? Record.textEffect?
  rw [find?_congr h.nameOf?_eq, h.value]

theorem name_of_effect? {m : MemberText} : (effect? m).map (·.field) = nameOf? m.key := by
  rw [← name_of_find?, effect?, Record.textEffect?]
  cases fields.find? (·.answersTo m.key) <;> rfl

theorem stems {e : Effect FilterSet} (he : e ∈ ms.filterMap effect?) : e.Stems fields := by
  obtain ⟨m, -, hm⟩ := List.mem_filterMap.mp he
  exact Record.stems_of_textEffect? hm

theorem commutes {e e' : Effect FilterSet} (he : e ∈ ms.filterMap effect?)
    (he' : e' ∈ ms.filterMap effect?) (hne : e.field ≠ e'.field) : e.Commutes e' :=
  (stems he).commutes independent_fields (stems he') hne

/-! ## What does not matter -/

theorem effects_known (ms : List MemberText) :
    (known ms).filterMap effect? = ms.filterMap effect? := by
  rw [known, List.filterMap_filter]
  refine List.filterMap_congr fun m _ => ?_
  rw [← name_of_effect?]
  cases effect? m <;> rfl

theorem effects_respelled (h : List.Forall₂ Respelled ms ms') :
    ms'.filterMap effect? = ms.filterMap effect? := by
  induction h with
  | nil => rfl
  | cons hm _ ih => rw [List.filterMap_cons, List.filterMap_cons, hm.effect?_eq, ih]

theorem perform_same (h : SameMembers ms ms') :
    Effect.perform [] empty (ms.filterMap effect?) =
      Effect.perform [] empty (ms'.filterMap effect?) := by
  obtain ⟨ms₁, hperm, hrespelled⟩ := h
  rw [effects_respelled hrespelled]
  exact Effect.perform_perm (hperm.filterMap effect?) (fun e he e' he' => commutes he he') empty

/-! ## Fields given twice, and fields not given -/

theorem perform_twice {name : String} {m m' : MemberText} (h : [m, m'].Sublist ms)
    (hm : nameOf? m.key = some name) (hm' : nameOf? m'.key = some name) (f : FilterSet) :
    Effect.perform [] empty (ms.filterMap effect?) ≠ some f := by
  rw [← name_of_effect?] at hm hm'
  obtain ⟨e, he, hname⟩ := Option.map_eq_some_iff.mp hm
  obtain ⟨e', he', hname'⟩ := Option.map_eq_some_iff.mp hm'
  intro hperform
  have hnodup := (Effect.perform_eq_some.mp hperform).1
  have hsub : [e.field, e'.field].Sublist ((ms.filterMap effect?).map (·.field)) := by
    have hsub := (h.filterMap effect?).map (·.field)
    simpa [he, he'] using hsub
  have hpair := hnodup.sublist hsub
  simp [hname, hname'] at hpair

theorem part?_of_perform {name : String} {seen : List String} {s : FilterSet}
    {es : List (Effect FilterSet)} (hes : ∀ e ∈ es, e.Stems fields ∧ e.field ≠ name)
    (h : Effect.perform seen s es = some f) : f.part? name = s.part? name := by
  induction es generalizing seen s with
  | nil =>
    cases h
    rfl
  | cons e es ih =>
    obtain ⟨⟨⟨g, hg, hname, hmakes⟩, hne⟩, hes⟩ := List.forall_mem_cons.mp hes
    rw [Effect.perform] at h
    split at h
    case isTrue => cases h
    case isFalse =>
      obtain ⟨u, hu, h⟩ := Option.bind_eq_some_iff.mp h
      obtain ⟨v, hv⟩ := puts_fields g hg u (hmakes u hu) s
      rw [ih hes h, part?, hv, get?_put, if_neg (hname ▸ hne)]
      rfl

/-- Two texts make the same filter set, or none, if they are objects with the same members, in any
order and under any of their names, or with the same ones that stand for a field. One that gives a
field twice makes none. A field that is not given is as in the empty filter set. -/
theorem decode_members (ms ms' : List MemberText) (text text' : String) (h : IsObject ms text)
    (h' : IsObject ms' text') :
    (SameMembers ms ms' → ∀ f, decode text = .ok f ↔ decode text' = .ok f) ∧
    (known ms = known ms' → ∀ f, decode text = .ok f ↔ decode text' = .ok f) ∧
    (∀ name m m', [m, m'].Sublist ms → nameOf? m.key = some name → nameOf? m'.key = some name →
      ∃ e, decode text = .error e) ∧
    ∀ f, decode text = .ok f → ∀ name, (∀ m ∈ ms, nameOf? m.key ≠ some name) →
      f.part? name = empty.part? name := by
  refine ⟨fun hsame f => ?_, fun hknown f => ?_, fun name m m' hsub hm hm' => ?_,
    fun f hf name hms => ?_⟩
  · rw [decode_iff h, decode_iff h', perform_same hsame]
  · rw [decode_iff h, decode_iff h', ← effects_known ms, ← effects_known ms', hknown]
  · cases hdecode : decode text with
    | error e => exact ⟨e, rfl⟩
    | ok f => exact absurd ((decode_iff h).mp hdecode) (perform_twice hsub hm hm' f)
  · refine part?_of_perform (fun e he => ⟨stems he, ?_⟩) ((decode_iff h).mp hf)
    obtain ⟨m, hm, he⟩ := List.mem_filterMap.mp he
    rintro rfl
    refine hms m hm ?_
    rw [← name_of_effect?, he, Option.map_some]

def listMember (key : String) : MemberText where
  key := key
  value := ['[', '"', 'a', '"', ']']
  isText := .list (.lastItem areSpaces_nil
    (.string (.char (by decide) (by decide) (by decide) .nil)) areSpaces_nil)

def toneMember : MemberText where
  key := "tone"
  value := ['"', 'b', '"']
  isText := .string (.char (by decide) (by decide) (by decide) .nil)

def noteMember : MemberText := ⟨"note", "null".toList, .null⟩

def toneFilter : FilterSet := { empty with keywords := ["a"], tone := some "b" }

theorem decode_members_tone :
    decode (compactObject [toneMember, listMember "keywords", noteMember]) = .ok toneFilter ∧
    decode (compactObject [listMember "keyword", toneMember]) = .ok toneFilter ∧
    (∃ e, decode (compactObject [listMember "keyword", toneMember, listMember "keywords"]) =
      .error e) ∧
    toneFilter.part? "near" = empty.part? "near" := by
  have hms := isObject_compactObject [listMember "keyword", noteMember, toneMember]
  have hdecode : decode (compactObject [listMember "keyword", noteMember, toneMember]) =
      .ok toneFilter := rfl
  have hsame : SameMembers [listMember "keyword", noteMember, toneMember]
      [toneMember, listMember "keywords", noteMember] := by
    refine ⟨[toneMember, listMember "keyword", noteMember], ?_, ?_⟩
    · exact (List.Perm.swap toneMember noteMember []).cons _ |>.trans (.swap _ _ _)
    · have hlist : Respelled (listMember "keyword") (listMember "keywords") :=
        ⟨rfl, .inr (.inl (by decide))⟩
      exact .cons ⟨rfl, .inl rfl⟩ (.cons hlist (.cons ⟨rfl, .inl rfl⟩ .nil))
  have hother := (decode_members _ _ _ _ hms (isObject_compactObject _)).1 hsame toneFilter
  have hknown := (decode_members _ [listMember "keyword", toneMember] _ _ hms
    (isObject_compactObject _)).2.1 rfl toneFilter
  have htwice := decode_members [listMember "keyword", toneMember, listMember "keywords"] [] _ _
    (isObject_compactObject _) (isObject_compactObject _)
  refine ⟨hother.mp hdecode, hknown.mp hdecode, ?_, ?_⟩
  · exact htwice.2.2.1 "keywords" (listMember "keyword") (listMember "keywords")
      (.cons_cons _ (.cons _ (.refl _))) rfl rfl
  · refine (decode_members _ [] _ _ hms (isObject_compactObject [])).2.2.2 toneFilter hdecode
      "near" ?_
    decide

end NewsSearch.FilterSet
