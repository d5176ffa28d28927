import NewsSearch.Proofs.Decode.Printed
import NewsSearch.Proofs.Json.Regular
import Mathlib.Data.List.Forall2

/-!
# Fields in any order

Members stand for fields, and each field that is given changes the record in its own way. As long as
no two fields touch the same part, the order of the members does not matter: what counts is that no
field is given twice and that each one takes its value.
-/

namespace NewsSearch.Decode

open Json

variable {σ α : Type}

/-! ## Effects -/

/-- What a member does to a record: the field it stands for, and the change that its value makes.
A value that the field does not take makes none. -/
structure Effect (σ : Type) where
  field : String
  change? : Option (σ → σ)

namespace Effect

/-- Effects one after another, after some fields. No field may be given again, and each takes its
value. -/
def perform (seen : List String) (s : σ) : List (Effect σ) → Option σ
  | [] => some s
  | e :: es =>
    if e.field ∈ seen then none
    else e.change?.bind fun change => perform (e.field :: seen) (change s) es

/-- One effect on a record that may have failed already. -/
def apply (s : Option σ) (e : Effect σ) : Option σ := s.bind fun s => e.change?.map (· s)

theorem foldl_apply_none (es : List (Effect σ)) : es.foldl apply none = none := by
  induction es with
  | nil => rfl
  | cons e es ih => exact ih

/-- The order is left out: no field twice, and every effect on the record. -/
theorem perform_eq_some {seen : List String} {s s' : σ} {es : List (Effect σ)} :
    perform seen s es = some s' ↔
      (es.map field).Nodup ∧ (∀ e ∈ es, e.field ∉ seen) ∧ es.foldl apply (some s) = some s' := by
  induction es generalizing seen s with
  | nil => simp [perform]
  | cons e es ih =>
    rw [perform, List.map_cons, List.nodup_cons, List.forall_mem_cons, List.foldl_cons]
    cases hchange : e.change? with
    | none => simp [apply, hchange, foldl_apply_none]
    | some change =>
      have hstep : apply (some s) e = some (change s) := by simp [apply, hchange]
      rw [hstep, Option.bind_some]
      split
      case isTrue hseen => simp [hseen]
      case isFalse hseen =>
        rw [ih]
        simp only [List.mem_cons, not_or, List.mem_map, not_exists, not_and]
        constructor
        · rintro ⟨hnodup, hmem, hfold⟩
          exact ⟨⟨fun f hf => (hmem f hf).1, hnodup⟩, ⟨hseen, fun f hf => (hmem f hf).2⟩, hfold⟩
        · rintro ⟨⟨hne, hnodup⟩, ⟨-, hmem⟩, hfold⟩
          exact ⟨hnodup, fun f hf => ⟨hne f hf, hmem f hf⟩, hfold⟩

/-- Neither change sees what the other has done. -/
def Commutes (e f : Effect σ) : Prop :=
  ∀ u ∈ e.change?, ∀ w ∈ f.change?, ∀ s, u (w s) = w (u s)

theorem apply_comm {e f : Effect σ} (h : e.Commutes f) (s : Option σ) :
    apply (apply s e) f = apply (apply s f) e := by
  cases s with
  | none => rfl
  | some s =>
    unfold Commutes at h
    unfold apply
    cases he : e.change? with
    | none => cases f.change? <;> rfl
    | some u =>
      cases hf : f.change? with
      | none => rfl
      | some w => exact congrArg some (h u he w hf s).symm

/-- Effects on different fields may come in any order. -/
theorem perform_perm {es es' : List (Effect σ)} (h : es.Perm es')
    (hcomm : ∀ e ∈ es, ∀ f ∈ es, e.field ≠ f.field → e.Commutes f) (s : σ) :
    perform [] s es = perform [] s es' := by
  refine Option.ext fun s' => ?_
  rw [perform_eq_some, perform_eq_some, (h.map field).nodup_iff]
  refine and_congr_right fun hnodup => ?_
  have hnodup := (h.map field).nodup_iff.mpr hnodup
  have hfold : es.foldl apply (some s) = es'.foldl apply (some s) := by
    refine h.foldl_eq' (fun e he f hf r => ?_) _
    by_cases hne : e.field = f.field
    · rw [List.inj_on_of_nodup_map hnodup he hf hne]
    · exact apply_comm (hcomm e he f hf hne) r
  simp [hfold]

end Effect

/-! ## What a field can do -/

/-- The change is one that the field makes, for some value or some text. -/
def Field.Makes (f : Field σ) (change : σ → σ) : Prop :=
  (∃ v, f.update.ofValue v = .ok change) ∨
    ∃ room cs rest, f.update.ofText room cs = .ok (change, rest)

theorem Field.makes_of {name : String} {aliases : List String} {d : Decoder α} {set : α → σ → σ}
    {change : σ → σ} (h : (Field.of name aliases d set).Makes change) : ∃ a, change = set a := by
  unfold Makes Field.of Decoder.map Decoder.refine at h
  rcases h with ⟨v, h⟩ | ⟨room, cs, rest, h⟩
  · dsimp only at h
    cases hv : d.ofValue v with
    | error e =>
      rw [hv] at h
      cases h
    | ok a =>
      rw [hv] at h
      exact ⟨a, (Except.ok.inj h).symm⟩
  · dsimp only at h
    cases hv : d.ofText room cs with
    | error e =>
      rw [hv] at h
      cases h
    | ok r =>
      rw [hv] at h
      exact ⟨r.1, (Prod.mk.inj (Except.ok.inj h)).1.symm⟩

/-- The fields do not touch the same part of a record. -/
def Field.Apart (f g : Field σ) : Prop :=
  ∀ u w, f.Makes u → g.Makes w → ∀ s, u (w s) = w (u s)

instance : Std.Symm (@Field.Apart σ) := ⟨fun _ _ h u w hu hw s => (h w u hw hu s).symm⟩

theorem Field.apart_of {β : Type} {name name' : String} {aliases aliases' : List String}
    {d : Decoder α} {d' : Decoder β} {set : α → σ → σ} {set' : β → σ → σ}
    (h : ∀ a b s, set a (set' b s) = set' b (set a s)) :
    (Field.of name aliases d set).Apart (Field.of name' aliases' d' set') := by
  intro u w hu hw s
  obtain ⟨a, rfl⟩ := makes_of hu
  obtain ⟨b, rfl⟩ := makes_of hw
  exact h a b s

def Record.Independent (fields : List (Field σ)) : Prop := fields.Pairwise Field.Apart

/-- The effect is one that a field of the record can have. -/
def Effect.Stems (fields : List (Field σ)) (e : Effect σ) : Prop :=
  ∃ f ∈ fields, e.field = f.name ∧ ∀ u ∈ e.change?, f.Makes u

theorem Effect.Stems.commutes {fields : List (Field σ)} (h : Record.Independent fields)
    {e e' : Effect σ} (he : e.Stems fields) (he' : e'.Stems fields) (hne : e.field ≠ e'.field) :
    e.Commutes e' := by
  obtain ⟨f, hf, hname, hmakes⟩ := he
  obtain ⟨f', hf', hname', hmakes'⟩ := he'
  have hfields : f ≠ f' := by
    rintro rfl
    exact hne (hname.trans hname'.symm)
  exact fun u hu w hw => h.forall hf hf' hfields u w (hmakes u hu) (hmakes' w hw)

/-! ## Members as effects -/

theorem toOption_eq_some {ε : Type} {r : Except ε α} {a : α} : r.toOption = some a ↔ r = .ok a := by
  cases r <;> simp [Except.toOption]

/-- What a value does under the field. -/
def Field.effect (f : Field σ) (v : Value) : Effect σ := ⟨f.name, (f.update.ofValue v).toOption⟩

namespace Field

/-- The names that a field goes by. -/
def names (f : Field σ) : List String := f.name :: f.aliases

variable {f : Field σ} {ms : Members}

theorem name_mem_names (f : Field σ) : f.name ∈ f.names := List.mem_cons_self

theorem answersTo_iff {key : String} : f.answersTo key ↔ key ∈ f.names := by
  simp [answersTo, names, @eq_comm _ key]

/-- What stands under the names of the field, the first of them that is given. -/
def lookup (f : Field σ) (ms : Members) : Option Value := f.names.findSome? fun name => get? name ms

/-- Of two names of the field one at most is given. -/
def GivenOnce (f : Field σ) (ms : Members) : Prop :=
  ∀ a ∈ f.names, ∀ b ∈ f.names, a ≠ b → get? a ms = none ∨ get? b ms = none

theorem lookup_of_one {a : String} (h : f.names = [a]) : f.lookup ms = get? a ms := by
  unfold lookup
  rw [h]
  cases hv : get? a ms <;> simp [hv]

theorem lookup_of_two {a b : String} (h : f.names = [a, b]) :
    f.lookup ms = (get? a ms).or (get? b ms) := by
  unfold lookup
  rw [h]
  cases hv : get? a ms <;> cases hw : get? b ms <;> simp [hv, hw]

theorem givenOnce_of_one {a : String} (h : f.names = [a]) : f.GivenOnce ms := by
  intro b hb c hc hne
  rw [h, List.mem_singleton] at hb hc
  exact absurd (hb.trans hc.symm) hne

theorem givenOnce_of_two {a b : String} (h : f.names = [a, b]) (hne : a ≠ b) :
    f.GivenOnce ms ↔ get? a ms = none ∨ get? b ms = none := by
  simp [GivenOnce, h, hne, hne.symm, or_comm]

theorem GivenOnce.lookup_eq_some (h : f.GivenOnce ms) {v : Value} :
    f.lookup ms = some v ↔ ∃ key ∈ f.names, get? key ms = some v := by
  constructor
  · exact List.exists_of_findSome?_eq_some
  · rintro ⟨key, hkey, hv⟩
    have hsome : (f.lookup ms).isSome := by
      rw [lookup, List.findSome?_isSome_iff]
      exact ⟨key, hkey, by rw [hv]; rfl⟩
    obtain ⟨w, hw⟩ := Option.isSome_iff_exists.mp hsome
    obtain ⟨key', hkey', hw'⟩ := List.exists_of_findSome?_eq_some hw
    by_cases heq : key = key'
    · rw [hw, ← hw', ← heq, hv]
    · rcases h key hkey key' hkey' heq with hnone | hnone
      · rw [hv] at hnone
        cases hnone
      · rw [hw'] at hnone
        cases hnone

end Field

namespace Record

/-- What a member does to a record. A key that stands for no field does nothing. -/
def effect? (fields : List (Field σ)) (m : String × Value) : Option (Effect σ) :=
  (fields.find? (·.answersTo m.1)).map (·.effect m.2)

theorem stems_of_effect? {fields : List (Field σ)} {m : String × Value} {e : Effect σ}
    (h : effect? fields m = some e) : e.Stems fields := by
  obtain ⟨f, hf, rfl⟩ := Option.map_eq_some_iff.mp h
  exact ⟨f, List.mem_of_find?_eq_some hf, rfl, fun u hu => .inl ⟨m.2, toOption_eq_some.mp hu⟩⟩

theorem membersOfValue_toOption (fields : List (Field σ)) (seen : List String) (s : σ)
    (ms : Members) :
    (membersOfValue fields seen s ms).toOption =
      Effect.perform seen s (ms.filterMap (effect? fields)) := by
  induction ms generalizing seen s with
  | nil => rfl
  | cons m ms ih =>
    obtain ⟨key, v⟩ := m
    rw [membersOfValue, List.filterMap_cons, effect?]
    cases hfind : fields.find? (·.answersTo key) with
    | none => exact ih seen s
    | some f =>
      simp only [Option.map_some, Effect.perform, Field.effect, List.contains_iff_mem]
      split
      case isTrue => rfl
      case isFalse =>
        cases hv : f.update.ofValue v with
        | error e => rfl
        | ok set => exact ih (f.name :: seen) (set s)

/-! ## Fields by name or by place -/

/-- The effects of the parts that are given, in the order of the fields. -/
def inOrder : List (Field σ) → List (Option Value) → List (Effect σ)
  | f :: fs, some v :: given => f.effect v :: inOrder fs given
  | _ :: fs, none :: given => inOrder fs given
  | _, _ => []

/-- The record after the parts that are given, in the order of the fields. -/
def fill : List (Field σ) → List (Option Value) → σ → Option σ
  | f :: fs, some v :: given, s =>
    (f.update.ofValue v).toOption.bind fun set => fill fs given (set s)
  | _ :: fs, none :: given, s => fill fs given s
  | _, _, s => some s

theorem perform_inOrder {fields : List (Field σ)} (h : (fields.map Field.name).Nodup)
    {seen : List String} (hseen : ∀ f ∈ fields, f.name ∉ seen) (given : List (Option Value))
    (s : σ) : Effect.perform seen s (inOrder fields given) = fill fields given s := by
  induction fields generalizing seen given s with
  | nil => cases given <;> rfl
  | cons f fields ih =>
    obtain ⟨hf, hnodup⟩ := List.nodup_cons.mp h
    obtain ⟨hfseen, hseen⟩ := List.forall_mem_cons.mp hseen
    cases given with
    | nil => rfl
    | cons v given =>
      cases v with
      | none => exact ih hnodup hseen given s
      | some v =>
        rw [inOrder, Effect.perform, if_neg (show (f.effect v).field ∉ seen from hfseen)]
        refine congrArg (Option.bind _) (funext fun set => ih hnodup (fun g hg => ?_) given (set s))
        have hne : g.name ≠ f.name := fun heq => hf (heq ▸ List.mem_map_of_mem hg)
        exact List.not_mem_cons_of_ne_of_not_mem hne (hseen g hg)

/-- What a decoder makes of a part that may be missing. -/
def part (d : Decoder α) (blank : α) : Option Value → Option α
  | none => some blank
  | some v => (d.ofValue v).toOption

/-- A field fills its part, which is blank before. -/
theorem fill_of {name : String} {aliases : List String} {d : Decoder α} {set : α → σ → σ}
    {blank : α} {s : σ} (hblank : set blank s = s) (fields : List (Field σ)) (v : Option Value)
    (given : List (Option Value)) :
    fill (.of name aliases d set :: fields) (v :: given) s =
      (part d blank v).bind fun a => fill fields given (set a s) := by
  cases v with
  | none => rw [fill, part, Option.bind_some, hblank]
  | some v =>
    rw [fill, part]
    unfold Field.of Decoder.map Decoder.refine
    dsimp only
    cases d.ofValue v <;> rfl

theorem fill_append_none (fields : List (Field σ)) (given : List (Option Value)) (n : Nat) (s : σ) :
    fill fields (given ++ List.replicate n none) s = fill fields given s := by
  induction fields generalizing given n s with
  | nil => cases given <;> cases n <;> rfl
  | cons f fields ih =>
    cases given with
    | nil =>
      cases n with
      | zero => rfl
      | succ n =>
        have hnil : fill fields [] s = some s := by cases fields <;> rfl
        have hrest := ih [] n s
        rw [List.nil_append, hnil] at hrest
        exact hrest
    | cons v given =>
      cases v with
      | none => exact ih given n s
      | some v => exact congrArg (Option.bind _) (funext fun set => ih given n (set s))

theorem itemsOfValue_toOption (length : Nat) (fields : List (Field σ)) (s : σ) (vs : List Value) :
    (itemsOfValue length fields s vs).toOption =
      if vs.length ≤ fields.length then fill fields (vs.map some) s else none := by
  induction fields generalizing s vs with
  | nil => cases vs <;> rfl
  | cons f fields ih =>
    cases vs with
    | nil => rfl
    | cons v vs =>
      rw [itemsOfValue, List.map_cons, fill]
      simp only [List.length_cons, Nat.add_le_add_iff_right]
      cases f.update.ofValue v with
      | error e => exact (ite_self none).symm
      | ok set => exact ih (set s) vs

/-! ## Objects, each key once -/

/-- No key is a name of two fields. -/
def Distinct (fields : List (Field σ)) : Prop := (fields.flatMap Field.names).Nodup

/-- Keys stand for fields by their names alone, each for one field. -/
structure Named (fields : List (Field σ)) : Prop where
  aliases : ∀ f ∈ fields, f.aliases = []
  names : (fields.map Field.name).Nodup

variable {fields : List (Field σ)} {ms : Members}

theorem Distinct.eq_of_mem (h : Distinct fields) {f g : Field σ} {key : String} (hf : f ∈ fields)
    (hg : g ∈ fields) (hkey : key ∈ f.names) (hkey' : key ∈ g.names) : f = g := by
  by_contra hne
  have hdisjoint := (List.nodup_flatMap.mp h).2
  have : Std.Symm (Function.onFun List.Disjoint (Field.names (σ := σ))) := ⟨fun _ _ h => h.symm⟩
  exact hdisjoint.forall hf hg hne hkey hkey'

theorem Distinct.nodup_name (h : Distinct fields) : (fields.map Field.name).Nodup := by
  apply List.pairwise_map.mpr
  refine (List.nodup_flatMap.mp h).2.imp ?_
  intro f g hdisjoint heq
  exact hdisjoint f.name_mem_names (heq ▸ g.name_mem_names)

theorem find?_eq_some_iff (h : Distinct fields) {key : String} {f : Field σ} :
    fields.find? (·.answersTo key) = some f ↔ f ∈ fields ∧ key ∈ f.names := by
  constructor
  · intro hfind
    exact ⟨List.mem_of_find?_eq_some hfind, Field.answersTo_iff.mp (List.find?_some hfind :)⟩
  · rintro ⟨hmem, hkey⟩
    cases hfind : fields.find? (·.answersTo key) with
    | none =>
      have hnot := List.find?_eq_none.mp hfind f hmem
      exact absurd (Field.answersTo_iff.mpr hkey) hnot
    | some g =>
      have hg := List.mem_of_find?_eq_some hfind
      have hgkey := List.find?_some hfind
      rw [h.eq_of_mem hg hmem (Field.answersTo_iff.mp hgkey) hkey]

theorem effect?_eq_some_iff (h : Distinct fields) {m : String × Value} {e : Effect σ} :
    effect? fields m = some e ↔ ∃ f ∈ fields, m.1 ∈ f.names ∧ e = f.effect m.2 := by
  simp only [effect?, Option.map_eq_some_iff, find?_eq_some_iff h]
  exact ⟨fun ⟨f, ⟨hf, hkey⟩, he⟩ => ⟨f, hf, hkey, he.symm⟩,
    fun ⟨f, hf, hkey, he⟩ => ⟨f, ⟨hf, hkey⟩, he.symm⟩⟩

/-- Among members with different keys a field is given again only under another of its names. -/
theorem nodup_effects_iff (h : Distinct fields) (hkeys : (ms.map Prod.fst).Nodup) :
    ((ms.filterMap (effect? fields)).map Effect.field).Nodup ↔ ∀ f ∈ fields, f.GivenOnce ms := by
  unfold List.Nodup
  rw [List.pairwise_map, List.pairwise_filterMap]
  constructor
  · intro hpairwise f hf a ha b hb hne
    by_contra hboth
    obtain ⟨hv, hw⟩ := not_or.mp hboth
    obtain ⟨v, hv⟩ := Option.ne_none_iff_exists'.mp hv
    obtain ⟨w, hw⟩ := Option.ne_none_iff_exists'.mp hw
    have : Std.Symm fun m m' : String × Value => ∀ e, effect? fields m = some e →
        ∀ e', effect? fields m' = some e' → e.field ≠ e'.field :=
      ⟨fun _ _ h e he e' he' => (h e' he' e he).symm⟩
    have hdiffer := hpairwise.forall (mem_of_get? hv) (mem_of_get? hw) (by simp [hne])
    exact hdiffer _ ((effect?_eq_some_iff h).mpr ⟨f, hf, ha, rfl⟩) _
      ((effect?_eq_some_iff h).mpr ⟨f, hf, hb, rfl⟩) rfl
  · intro honce
    refine (List.pairwise_map.mp hkeys).imp_of_mem ?_
    intro m m' hm hm' hne e he e' he' heq
    obtain ⟨f, hf, hkey, rfl⟩ := (effect?_eq_some_iff h).mp he
    obtain ⟨g, hg, hkey', rfl⟩ := (effect?_eq_some_iff h).mp he'
    have heq : f.name = g.name := heq
    obtain rfl := h.eq_of_mem hf hg f.name_mem_names (heq ▸ g.name_mem_names)
    rcases honce f hf _ hkey _ hkey' hne with hnone | hnone
    · rw [(get?_eq_some_iff hkeys).mpr hm] at hnone
      cases hnone
    · rw [(get?_eq_some_iff hkeys).mpr hm'] at hnone
      cases hnone

theorem mem_inOrder_map {part : Field σ → Option Value} {e : Effect σ} :
    e ∈ inOrder fields (fields.map part) ↔
      ∃ f ∈ fields, ∃ v, part f = some v ∧ e = f.effect v := by
  induction fields with
  | nil => simp [inOrder]
  | cons f fields ih =>
    rw [List.map_cons]
    cases hv : part f with
    | none => simp [inOrder, hv, ih]
    | some v => simp [inOrder, hv, ih]

theorem names_inOrder (fields : List (Field σ)) (given : List (Option Value)) :
    List.Sublist ((inOrder fields given).map Effect.field) (fields.map Field.name) := by
  induction fields generalizing given with
  | nil => cases given <;> simp [inOrder]
  | cons f fields ih =>
    cases given with
    | nil => simp [inOrder]
    | cons v given =>
      cases v with
      | none => exact (ih given).cons f.name
      | some v => exact (ih given).cons_cons f.name

/-- The members of an object, each key once and each field under one name, do what the fields in
order do with what stands under their names. -/
theorem perm_inOrder (h : Distinct fields) (hkeys : (ms.map Prod.fst).Nodup)
    (honce : ∀ f ∈ fields, f.GivenOnce ms) :
    (ms.filterMap (effect? fields)).Perm (inOrder fields (fields.map (·.lookup ms))) := by
  have hnodup : (ms.filterMap (effect? fields)).Nodup :=
    .of_map _ ((nodup_effects_iff h hkeys).mpr honce)
  have hnodup' : (inOrder fields (fields.map (·.lookup ms))).Nodup :=
    .of_map _ (h.nodup_name.sublist (names_inOrder _ _))
  refine (List.perm_ext_iff_of_nodup hnodup hnodup').mpr fun e => ?_
  rw [List.mem_filterMap, mem_inOrder_map]
  simp only [effect?_eq_some_iff h]
  constructor
  · rintro ⟨⟨key, v⟩, hm, f, hf, hkey, rfl⟩
    have hv := (get?_eq_some_iff hkeys).mpr hm
    exact ⟨f, hf, v, (honce f hf).lookup_eq_some.mpr ⟨key, hkey, hv⟩, rfl⟩
  · rintro ⟨f, hf, v, hv, rfl⟩
    obtain ⟨key, hkey, hv⟩ := (honce f hf).lookup_eq_some.mp hv
    exact ⟨(key, v), mem_of_get? hv, f, hf, hkey, rfl⟩

theorem membersOfValue_eq_some_iff (h : Distinct fields) (hindependent : Independent fields)
    (hkeys : (ms.map Prod.fst).Nodup) {s s' : σ} :
    (membersOfValue fields [] s ms).toOption = some s' ↔
      (∀ f ∈ fields, f.GivenOnce ms) ∧ fill fields (fields.map (·.lookup ms)) s = some s' := by
  have hstems {e : Effect σ} (he : e ∈ ms.filterMap (effect? fields)) : e.Stems fields := by
    obtain ⟨m, -, hm⟩ := List.mem_filterMap.mp he
    exact stems_of_effect? hm
  have hfill (honce : ∀ f ∈ fields, f.GivenOnce ms) :
      Effect.perform [] s (ms.filterMap (effect? fields)) =
        fill fields (fields.map (·.lookup ms)) s := by
    rw [Effect.perform_perm (perm_inOrder h hkeys honce) fun e he e' he' =>
      (hstems he).commutes hindependent (hstems he')]
    exact perform_inOrder h.nodup_name (fun _ _ => List.not_mem_nil) _ s
  rw [membersOfValue_toOption]
  constructor
  · intro hperform
    have honce := (nodup_effects_iff h hkeys).mp (Effect.perform_eq_some.mp hperform).1
    exact ⟨honce, (hfill honce).symm.trans hperform⟩
  · rintro ⟨honce, hperform⟩
    exact (hfill honce).trans hperform

/-! ### Fields with one name -/

theorem Named.names_eq (h : Named fields) {f : Field σ} (hf : f ∈ fields) : f.names = [f.name] := by
  rw [Field.names, h.aliases f hf]

theorem Named.distinct (h : Named fields) : Distinct fields := by
  have hnames : fields.flatMap Field.names = fields.map Field.name := by
    rw [List.map_eq_flatMap]
    exact List.flatMap_congr fun f hf => h.names_eq hf
  rw [Distinct, hnames]
  exact h.names

theorem membersOfValue_eq_fill (h : Named fields) (hindependent : Independent fields)
    (hkeys : (ms.map Prod.fst).Nodup) (s : σ) :
    (membersOfValue fields [] s ms).toOption =
      fill fields (fields.map fun f => get? f.name ms) s := by
  have hlookup : (fields.map fun f => get? f.name ms) = fields.map (·.lookup ms) :=
    List.map_congr_left fun f hf => (Field.lookup_of_one (h.names_eq hf)).symm
  refine Option.ext fun s' => ?_
  rw [membersOfValue_eq_some_iff h.distinct hindependent hkeys, hlookup]
  exact and_iff_right fun f hf => Field.givenOnce_of_one (h.names_eq hf)

/-! ## Records from values -/

/-- What stands for the parts of a record that have these names: what an object has under each name,
or the items of a list, which has no more of them than there are parts. -/
inductive Gives (names : List String) : Value → List (Option Value) → Prop
  | object (members : Members) :
    Gives names (.object members) (names.map fun name => get? name members)
  | list {items : List Value} (h : items.length ≤ names.length) :
    Gives names (.array items) (items.map some ++ List.replicate (names.length - items.length) none)

theorem Gives.length_eq {names : List String} {v : Value} {given : List (Option Value)}
    (h : Gives names v given) : given.length = names.length := by
  cases h with
  | object members => simp
  | list h => simp [h]

theorem Gives.unique {names : List String} {v : Value} {given given' : List (Option Value)}
    (h : Gives names v given) (h' : Gives names v given') : given = given' := by
  cases h <;> cases h' <;> rfl

theorem Gives.regular {names : List String} {value : Value} {given : List (Option Value)}
    (h : Gives names value given) (hvalue : value.Regular) {v : Value} (hv : some v ∈ given) :
    v.Regular := by
  cases h with
  | object members =>
    obtain ⟨name, -, hname⟩ := List.mem_map.mp hv
    exact Members.Regular.of_get? hvalue hname
  | list h =>
    rcases List.mem_append.mp hv with hv | hv
    · obtain ⟨w, hw, heq⟩ := List.mem_map.mp hv
      cases heq
      exact hvalue.of_mem hw
    · cases (List.mem_replicate.mp hv).2

theorem ofValue_object_iff {r : Record σ} (h : Distinct r.fields)
    (hindependent : Independent r.fields) {ms : Members} (hkeys : (ms.map Prod.fst).Nodup) {s : σ} :
    r.decoder.ofValue (.object ms) = .ok s ↔
      (∀ f ∈ r.fields, f.GivenOnce ms) ∧
        fill r.fields (r.fields.map (·.lookup ms)) r.blank = some s := by
  rw [← toOption_eq_some]
  exact membersOfValue_eq_some_iff h hindependent hkeys

theorem ofValue_array_iff {r : Record σ} {items : List Value} {s : σ} :
    r.decoder.ofValue (.array items) = .ok s ↔
      items.length ≤ r.fields.length ∧ fill r.fields (items.map some) r.blank = some s := by
  change itemsOfValue _ r.fields r.blank items = _ ↔ _
  rw [← toOption_eq_some, itemsOfValue_toOption]
  split
  case isTrue hle => simp [hle]
  case isFalse hle => simp [hle]

/-- A record is read from a value part by part. -/
theorem ofValue_eq_ok_iff {r : Record σ} (h : Named r.fields) (hindependent : Independent r.fields)
    {v : Value} (hv : v.Regular) {s : σ} :
    r.decoder.ofValue v = .ok s ↔
      ∃ given, Gives (r.fields.map Field.name) v given ∧ fill r.fields given r.blank = some s := by
  have hnames (ms : Members) : (r.fields.map Field.name).map (fun name => get? name ms) =
      r.fields.map fun f => get? f.name ms := List.map_map
  cases hv with
  | object keys _ =>
    change membersOfValue r.fields [] r.blank _ = _ ↔ _
    rw [← toOption_eq_some, membersOfValue_eq_fill h hindependent keys, ← hnames]
    refine ⟨fun hfill => ⟨_, .object _, hfill⟩, ?_⟩
    rintro ⟨_, ⟨⟩, hfill⟩
    exact hfill
  | @array items _ =>
    rw [ofValue_array_iff, ← @List.length_map _ _ r.fields Field.name]
    constructor
    · rintro ⟨hle, hfill⟩
      exact ⟨_, .list hle, by rwa [fill_append_none]⟩
    · rintro ⟨_, ⟨⟩ | hle, hfill⟩
      exact ⟨hle, by rwa [fill_append_none] at hfill⟩
  | _ =>
    refine iff_of_false nofun ?_
    rintro ⟨_, ⟨⟩, -⟩

end Record

/-! ## Lists from values -/

theorem forall₂_congr {β : Type} {R S : α → β → Prop} {as : List α} {bs : List β}
    (h : ∀ a ∈ as, ∀ b, R a b ↔ S a b) : List.Forall₂ R as bs ↔ List.Forall₂ S as bs := by
  induction as generalizing bs with
  | nil => simp
  | cons a as ih =>
    obtain ⟨ha, has⟩ := List.forall_mem_cons.mp h
    simp [List.forall₂_cons_left_iff, ha, ih has]

theorem exists_forall₂_iff {β : Type} {R : α → β → Prop} {as : List α} :
    (∃ bs, List.Forall₂ R as bs) ↔ ∀ a ∈ as, ∃ b, R a b := by
  induction as with
  | nil => exact iff_of_true ⟨[], .nil⟩ nofun
  | cons a as ih =>
    rw [List.forall_mem_cons, ← ih]
    constructor
    · rintro ⟨_, hb | ⟨hb, hbs⟩⟩
      exact ⟨⟨_, hb⟩, ⟨_, hbs⟩⟩
    · rintro ⟨⟨b, hb⟩, ⟨bs, hbs⟩⟩
      exact ⟨b :: bs, .cons hb hbs⟩

/-- A list is read item by item. -/
theorem Decoder.list_ofValue_eq_ok_iff {d : Decoder α} {vs : List Value} {as : List α} :
    d.list.ofValue (.array vs) = .ok as ↔ List.Forall₂ (fun v a => d.ofValue v = .ok a) vs as := by
  change vs.mapM d.ofValue = .ok as ↔ _
  induction vs generalizing as with
  | nil =>
    rw [List.mapM_nil, List.forall₂_nil_left_iff]
    exact ⟨fun h => (Except.ok.inj h).symm, fun h => h ▸ rfl⟩
  | cons v vs ih =>
    rw [List.mapM_cons, List.forall₂_cons_left_iff]
    cases hv : d.ofValue v with
    | error e => exact iff_of_false nofun (by rintro ⟨a, as, h, -⟩; cases h)
    | ok a =>
      cases hvs : vs.mapM d.ofValue with
      | error e =>
        refine iff_of_false nofun ?_
        rintro ⟨a, as, -, h, -⟩
        rw [← ih, hvs] at h
        cases h
      | ok as' =>
        rw [hvs] at ih
        constructor
        · rintro ⟨⟩
          exact ⟨a, as', rfl, ih.mp rfl, rfl⟩
        · rintro ⟨b, bs, hb, hbs, rfl⟩
          cases hb
          cases ih.mpr hbs
          rfl

end NewsSearch.Decode
