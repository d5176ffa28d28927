import NewsSearch.Timeline.Series
import NewsSearch.Proofs.Decimal.Numeral
import NewsSearch.Proofs.Decode.Fields
import NewsSearch.Proofs.Json.Nulls
import Mathlib.Tactic.SplitIfs

/-!
# The shape of a timeline

Which answers have a timeline and what its series and points are, said from the value alone. Every
part is loosely typed and may be missing or null.
-/

namespace NewsSearch.Timeline

open Json Decode Decode.Record

variable {α : Type}

/-! ## What a value reads as -/

/-- The text of a number is a date too. -/
inductive ReadsDate : Option Value → String → Prop
  | missing : ReadsDate none ""
  | text (s : String) : ReadsDate (some (.string s)) s
  | number (n : Number) :
    ReadsDate (some (.number n)) (String.ofList (Printer.numberText n))

inductive ReadsNumber : Option Value → Option Float → Prop
  | missing : ReadsNumber none none
  | number (n : Number) : ReadsNumber (some (.number n)) (some n.toFloat)
  | blank {s : String} (h : Text.allBlank s) : ReadsNumber (some (.string s)) none
  | numeral {s : String} {x : Float} (hblank : Text.allBlank s = false)
      (h : Decimal.readNumeral (Text.trim s) = .ok x) : ReadsNumber (some (.string s)) (some x)

inductive ReadsName : Option Value → String → Prop
  | missing : ReadsName none unknownName
  | empty : ReadsName (some (.string "")) unknownName
  | text {s : String} (h : s ≠ "") : ReadsName (some (.string s)) s

/-- The parts of a record that have these names. A null part is like none. -/
def Holds (names : List String) (v : Value) (parts : List (Option Value)) : Prop :=
  ∃ given, Gives names v given ∧ parts = given.map present

def ReadsPoint (v : Value) (p : Point) : Prop :=
  ∃ date value norm, Holds ["date", "value", "norm"] v [date, value, norm] ∧
    ReadsDate date p.date ∧ ReadsNumber value p.value ∧ ReadsNumber norm p.norm

/-- The items of a list, one to one and in order. -/
inductive ReadsList (reads : Value → α → Prop) : Option Value → List α → Prop
  | missing : ReadsList reads none []
  | list {items : List Value} {as : List α} (h : List.Forall₂ reads items as) :
    ReadsList reads (some (.array items)) as

@[simp] theorem readsList_array {reads : Value → α → Prop} {items : List Value} {as : List α} :
    ReadsList reads (some (.array items)) as ↔ List.Forall₂ reads items as :=
  ⟨fun | .list h => h, .list⟩

def ReadsSeries (v : Value) (s : Series) : Prop :=
  ∃ name points, Holds ["series", "data"] v [name, points] ∧
    ReadsName name s.name ∧ ReadsList ReadsPoint points s.points

def ReadsTimeline (payload : Members) (series : List Series) : Prop :=
  ReadsList ReadsSeries (present (get? "timeline" payload)) series

/-! ## The shapes -/

def IsText : Value → Prop
  | .string _ => True
  | _ => False

def IsDate : Value → Prop
  | .string _ | .number _ => True
  | _ => False

/-- A text is a number if it is blank, or a numeral with blanks around it. -/
def IsNumber : Value → Prop
  | .number _ => True
  | .string s => Text.allBlank s ∨ Decimal.IsNumeral (Text.trim s).toList
  | _ => False

def IsList (item : Value → Prop) : Value → Prop
  | .array items => ∀ v ∈ items, item v
  | _ => False

def IsRecord (shapes : List (String × (Value → Prop))) (v : Value) : Prop :=
  ∃ parts, Holds (shapes.map Prod.fst) v parts ∧
    List.Forall₂ (fun shape part => ∀ w ∈ part, shape.2 w) shapes parts

def IsPoint : Value → Prop := IsRecord [("date", IsDate), ("value", IsNumber), ("norm", IsNumber)]

def IsSeries : Value → Prop := IsRecord [("series", IsText), ("data", IsList IsPoint)]

def HasTimeline (payload : Members) : Prop :=
  ∀ v ∈ present (get? "timeline" payload), IsList IsSeries v

/-! ## Parts -/

theorem part_date {v : Option Value} {s : String} :
    part (Decoder.value.refine looseText) "" v = some s ↔ ReadsDate (present v) s := by
  rcases v with _ | (_ | b | n | s | vs | ms) <;> constructor <;> rintro ⟨⟩ <;> constructor

theorem looseNumber_string {s : String} {x : Option Float} :
    looseNumber (.string s) = .ok x ↔ ReadsNumber (some (.string s)) x := by
  simp only [looseNumber]
  by_cases hblank : Text.allBlank s
  · rw [if_pos hblank]
    constructor
    · rintro ⟨⟩
      exact .blank hblank
    · rintro (_ | _ | _ | ⟨hnot, -⟩)
      · rfl
      · rw [hblank] at hnot
        cases hnot
  · rw [if_neg hblank]
    cases hread : Decimal.readNumeral (Text.trim s) with
    | error e =>
      refine iff_of_false nofun ?_
      rintro (_ | _ | hyes | ⟨-, h⟩)
      · exact hblank hyes
      · rw [hread] at h
        cases h
    | ok y =>
      constructor
      · rintro ⟨⟩
        exact .numeral (Bool.eq_false_iff.mpr hblank) hread
      · rintro (_ | _ | hyes | ⟨-, h⟩)
        · exact absurd hyes hblank
        · rw [hread] at h
          cases h
          rfl

theorem part_number {v : Option Value} {x : Option Float} :
    part (Decoder.value.refine looseNumber) none v = some x ↔ ReadsNumber (present v) x := by
  rcases v with _ | (_ | b | n | s | vs | ms)
  case some.string => exact toOption_eq_some.trans looseNumber_string
  all_goals constructor <;> rintro ⟨⟩ <;> constructor

theorem part_name {v : Option Value} {s : String} :
    part (Decoder.string.nullable.map seriesName) unknownName v = some s ↔
      ReadsName (present v) s := by
  rcases v with _ | (_ | b | n | name | vs | ms)
  case some.string =>
    change some (seriesName (some name)) = some s ↔ _
    by_cases hname : name = ""
    · subst hname
      constructor
      · rintro ⟨⟩
        exact .empty
      · rintro (_ | _ | hne)
        · rfl
        · exact absurd rfl hne
    · have hself : seriesName (some name) = name := by simp [seriesName, Option.filter, hname]
      rw [hself]
      constructor
      · rintro ⟨⟩
        exact .text hname
      · rintro (_ | _ | -)
        · exact absurd rfl hname
        · rfl
  all_goals constructor <;> rintro ⟨⟩ <;> constructor

theorem part_list {d : Decoder α} {reads : Value → α → Prop} {v : Option Value} {as : List α}
    (h : ∀ items, v = some (.array items) → ∀ w ∈ items, ∀ a, d.ofValue w = .ok a ↔ reads w a) :
    part (d.list.nullable.map (·.getD [])) [] v = some as ↔ ReadsList reads (present v) as := by
  rcases v with _ | (_ | b | n | s | items | ms)
  case some.array =>
    have hlist : part (d.list.nullable.map (·.getD [])) [] (some (.array items)) =
        (d.list.ofValue (.array items)).toOption := by
      change (((d.list.ofValue (.array items)).map some).bind fun a => .ok (a.getD [])).toOption = _
      cases d.list.ofValue (.array items) <;> rfl
    rw [hlist, toOption_eq_some, Decoder.list_ofValue_eq_ok_iff, forall₂_congr (h items rfl)]
    exact readsList_array.symm
  all_goals constructor <;> rintro ⟨⟩ <;> constructor

/-! ## Points and series -/

theorem named_pointFields : Named Point.fields := ⟨by decide, by decide⟩

theorem independent_pointFields : Independent Point.fields := by
  simp only [Independent, Point.fields, List.pairwise_cons, List.mem_cons, forall_eq_or_imp,
    List.not_mem_nil, false_imp_iff, implies_true, List.Pairwise.nil, and_true]
  refine ⟨⟨?_, ?_⟩, ?_⟩ <;> exact Field.apart_of fun _ _ _ => rfl

theorem named_seriesFields : Named Series.fields := ⟨by decide, by decide⟩

theorem independent_seriesFields : Independent Series.fields := by
  simp only [Independent, Series.fields, List.pairwise_cons, List.mem_cons, forall_eq_or_imp,
    List.not_mem_nil, false_imp_iff, implies_true, List.Pairwise.nil, and_true]
  exact Field.apart_of fun _ _ _ => rfl

theorem fill_pointFields (date value norm : Option Value) :
    fill Point.fields [date, value, norm] Point.empty =
      (part (Decoder.value.refine looseText) "" date).bind fun date =>
      (part (Decoder.value.refine looseNumber) none value).bind fun value =>
      (part (Decoder.value.refine looseNumber) none norm).bind fun norm =>
      some ⟨date, value, norm⟩ := by
  unfold Point.fields
  rw [fill_of rfl]
  refine congrArg (Option.bind _) (funext fun date => ?_)
  rw [fill_of rfl]
  refine congrArg (Option.bind _) (funext fun value => ?_)
  rw [fill_of rfl]
  rfl

theorem readsPoint_iff {v : Value} (hv : v.Regular) {p : Point} :
    Point.decoder.ofValue v = .ok p ↔ ReadsPoint v p := by
  unfold Point.decoder ReadsPoint Holds
  rw [ofValue_eq_ok_iff (r := Point.record) named_pointFields independent_pointFields hv]
  constructor
  · rintro ⟨given, hgiven, hfill⟩
    obtain ⟨date, value, norm, rfl⟩ := List.length_eq_three.mp hgiven.length_eq
    have hfill : fill Point.fields [date, value, norm] Point.empty = some p := hfill
    simp only [fill_pointFields, Option.bind_eq_some_iff, part_date, part_number] at hfill
    obtain ⟨_, hdate, _, hvalue, _, hnorm, ⟨⟩⟩ := hfill
    exact ⟨_, _, _, ⟨_, hgiven, rfl⟩, hdate, hvalue, hnorm⟩
  · rintro ⟨_, _, _, ⟨given, hgiven, hparts⟩, hdate, hvalue, hnorm⟩
    obtain ⟨date, value, norm, rfl⟩ := List.length_eq_three.mp hgiven.length_eq
    cases hparts
    refine ⟨_, hgiven, ?_⟩
    change fill Point.fields [date, value, norm] Point.empty = some p
    simp only [fill_pointFields, Option.bind_eq_some_iff, part_date, part_number]
    exact ⟨_, hdate, _, hvalue, _, hnorm, rfl⟩

theorem fill_seriesFields (name points : Option Value) :
    fill Series.fields [name, points] Series.empty =
      (part (Decoder.string.nullable.map seriesName) unknownName name).bind fun name =>
      (part (Point.decoder.list.nullable.map (·.getD [])) [] points).bind fun points =>
      some ⟨name, points⟩ := by
  unfold Series.fields
  rw [fill_of rfl]
  refine congrArg (Option.bind _) (funext fun name => ?_)
  rw [fill_of rfl]
  rfl

theorem part_points {v : Value} (hv : v.Regular) {name points : Option Value}
    (h : Gives ["series", "data"] v [name, points]) {ps : List Point} :
    part (Point.decoder.list.nullable.map (·.getD [])) [] points = some ps ↔
      ReadsList ReadsPoint (present points) ps := by
  refine part_list fun items hitems w hw p => readsPoint_iff ?_
  have hregular : (Value.array items).Regular := h.regular hv (by simp [hitems])
  exact hregular.of_mem hw

theorem readsSeries_iff {v : Value} (hv : v.Regular) {s : Series} :
    Series.decoder.ofValue v = .ok s ↔ ReadsSeries v s := by
  unfold Series.decoder ReadsSeries Holds
  rw [ofValue_eq_ok_iff (r := Series.record) named_seriesFields independent_seriesFields hv]
  constructor
  · rintro ⟨given, hgiven, hfill⟩
    obtain ⟨name, points, rfl⟩ := List.length_eq_two.mp hgiven.length_eq
    have hfill : fill Series.fields [name, points] Series.empty = some s := hfill
    simp only [fill_seriesFields, Option.bind_eq_some_iff, part_name,
      part_points hv hgiven] at hfill
    obtain ⟨_, hname, _, hpoints, ⟨⟩⟩ := hfill
    exact ⟨_, _, ⟨_, hgiven, rfl⟩, hname, hpoints⟩
  · rintro ⟨_, _, ⟨given, hgiven, hparts⟩, hname, hpoints⟩
    obtain ⟨name, points, rfl⟩ := List.length_eq_two.mp hgiven.length_eq
    cases hparts
    refine ⟨_, hgiven, ?_⟩
    change fill Series.fields [name, points] Series.empty = some s
    simp only [fill_seriesFields, Option.bind_eq_some_iff, part_name, part_points hv hgiven]
    exact ⟨_, hname, _, hpoints, rfl⟩

theorem readsTimeline_iff {payload : Members} (h : payload.Regular) {series : List Series} :
    Series.ofPayload payload = .ok series ↔ ReadsTimeline payload series := by
  unfold Series.ofPayload ReadsTimeline
  rcases hv : get? "timeline" payload with _ | (_ | b | n | s | items | ms)
  case some.array =>
    have hregular : (Value.array items).Regular := Members.Regular.of_get? h hv
    change Series.decoder.list.ofValue (.array items) = _ ↔ _
    rw [Decoder.list_ofValue_eq_ok_iff,
      forall₂_congr fun v hv s => readsSeries_iff (hregular.of_mem hv) (s := s)]
    exact readsList_array.symm
  all_goals constructor <;> rintro ⟨⟩ <;> constructor

/-! ## What is read has the shape -/

theorem exists_readsDate {v : Option Value} : (∃ s, ReadsDate v s) ↔ ∀ w ∈ v, IsDate w := by
  rcases v with _ | (_ | b | n | s | vs | ms)
  case none => exact iff_of_true ⟨_, .missing⟩ nofun
  case some.number => exact iff_of_true ⟨_, .number n⟩ (by rintro _ ⟨⟩; trivial)
  case some.string => exact iff_of_true ⟨_, .text s⟩ (by rintro _ ⟨⟩; trivial)
  all_goals exact iff_of_false nofun fun h => h _ rfl

theorem exists_readsName {v : Option Value} : (∃ s, ReadsName v s) ↔ ∀ w ∈ v, IsText w := by
  rcases v with _ | (_ | b | n | s | vs | ms)
  case none => exact iff_of_true ⟨_, .missing⟩ nofun
  case some.string =>
    refine iff_of_true ?_ (by rintro _ ⟨⟩; trivial)
    by_cases hs : s = ""
    · exact ⟨_, hs ▸ ReadsName.empty⟩
    · exact ⟨_, .text hs⟩
  all_goals exact iff_of_false nofun fun h => h _ rfl

theorem exists_readsNumber {v : Option Value} : (∃ x, ReadsNumber v x) ↔ ∀ w ∈ v, IsNumber w := by
  rcases v with _ | (_ | b | n | s | vs | ms)
  case none => exact iff_of_true ⟨_, .missing⟩ nofun
  case some.number => exact iff_of_true ⟨_, .number n⟩ (by rintro _ ⟨⟩; trivial)
  case some.string =>
    constructor
    · rintro ⟨x, hx⟩ _ ⟨⟩
      cases hx with
      | blank h => exact .inl h
      | numeral _ h => exact .inr (Decimal.readNumeral_eq_ok_iff.mp ⟨_, h⟩)
    · intro h
      cases hblank : Text.allBlank s with
      | true => exact ⟨_, .blank hblank⟩
      | false =>
        have hnumeral := (h _ rfl).resolve_left (by simp [hblank])
        obtain ⟨x, hx⟩ := Decimal.readNumeral_eq_ok_iff.mpr hnumeral
        exact ⟨_, .numeral hblank hx⟩
  all_goals exact iff_of_false nofun fun h => h _ rfl

theorem exists_readsList {reads : Value → α → Prop} {item : Value → Prop} {v : Option Value}
    (h : ∀ w, (∃ a, reads w a) ↔ item w) :
    (∃ as, ReadsList reads v as) ↔ ∀ w ∈ v, IsList item w := by
  rcases v with _ | (_ | b | n | s | vs | ms)
  case none => exact iff_of_true ⟨_, .missing⟩ nofun
  case some.array =>
    have hitems : (∃ as, List.Forall₂ reads vs as) ↔ ∀ w ∈ vs, item w := by
      simp only [exists_forall₂_iff, h]
    simp only [readsList_array, hitems, Option.mem_some, forall_eq']
    rfl
  all_goals exact iff_of_false nofun fun h => h _ rfl

theorem exists_readsPoint {v : Value} : (∃ p, ReadsPoint v p) ↔ IsPoint v := by
  constructor
  · rintro ⟨p, date, value, norm, hparts, hdate, hvalue, hnorm⟩
    have hdate := exists_readsDate.mp ⟨_, hdate⟩
    have hvalue := exists_readsNumber.mp ⟨_, hvalue⟩
    have hnorm := exists_readsNumber.mp ⟨_, hnorm⟩
    exact ⟨_, hparts, .cons hdate (.cons hvalue (.cons hnorm .nil))⟩
  · rintro ⟨_, hparts, _ | ⟨hdate, _ | ⟨hvalue, _ | ⟨hnorm, ⟨⟩⟩⟩⟩⟩
    obtain ⟨date, hdate⟩ := exists_readsDate.mpr hdate
    obtain ⟨value, hvalue⟩ := exists_readsNumber.mpr hvalue
    obtain ⟨norm, hnorm⟩ := exists_readsNumber.mpr hnorm
    exact ⟨⟨date, value, norm⟩, _, _, _, hparts, hdate, hvalue, hnorm⟩

theorem exists_readsSeries {v : Value} : (∃ s, ReadsSeries v s) ↔ IsSeries v := by
  have hpoints {v : Option Value} := @exists_readsList Point ReadsPoint IsPoint v fun _ =>
    exists_readsPoint
  constructor
  · rintro ⟨s, name, points, hparts, hname, hlist⟩
    have hname := exists_readsName.mp ⟨_, hname⟩
    have hlist := hpoints.mp ⟨_, hlist⟩
    exact ⟨_, hparts, .cons hname (.cons hlist .nil)⟩
  · rintro ⟨_, hparts, _ | ⟨hname, _ | ⟨hlist, ⟨⟩⟩⟩⟩
    obtain ⟨name, hname⟩ := exists_readsName.mpr hname
    obtain ⟨points, hlist⟩ := hpoints.mpr hlist
    exact ⟨⟨name, points⟩, _, _, hparts, hname, hlist⟩

theorem exists_readsTimeline {payload : Members} :
    (∃ series, ReadsTimeline payload series) ↔ HasTimeline payload :=
  exists_readsList fun _ => exists_readsSeries

/-! ## Null members -/

theorem readsDate_withoutNulls {v : Option Value} {s : String} :
    ReadsDate (v.map Value.withoutNulls) s ↔ ReadsDate v s := by
  rcases v with _ | (_ | b | n | s | vs | ms) <;> constructor <;> rintro ⟨⟩ <;> constructor

theorem readsNumber_withoutNulls {v : Option Value} {x : Option Float} :
    ReadsNumber (v.map Value.withoutNulls) x ↔ ReadsNumber v x := by
  rcases v with _ | (_ | b | n | s | vs | ms)
  case some.array | some.object => constructor <;> rintro ⟨⟩
  all_goals rfl

theorem readsName_withoutNulls {v : Option Value} {s : String} :
    ReadsName (v.map Value.withoutNulls) s ↔ ReadsName v s := by
  rcases v with _ | (_ | b | n | s | vs | ms)
  case some.array | some.object => constructor <;> rintro ⟨⟩
  all_goals rfl

theorem readsList_withoutNulls {reads : Value → α → Prop} {v : Option Value} {as : List α}
    (h : ∀ items, v = some (.array items) → ∀ w ∈ items, ∀ a, reads w.withoutNulls a ↔ reads w a) :
    ReadsList reads (v.map Value.withoutNulls) as ↔ ReadsList reads v as := by
  rcases v with _ | (_ | b | n | s | items | ms)
  case some.array =>
    rw [Option.map_some, Value.withoutNulls, itemsWithoutNulls_eq_map, readsList_array,
      readsList_array, List.forall₂_map_left_iff]
    exact forall₂_congr (h items rfl)
  case some.object => constructor <;> rintro ⟨⟩
  all_goals rfl

theorem holds_object {names : List String} {ms : Members} {parts : List (Option Value)} :
    Holds names (.object ms) parts ↔ parts = names.map fun name => present (get? name ms) := by
  constructor
  · rintro ⟨_, ⟨⟩, rfl⟩
    exact List.map_map
  · rintro rfl
    refine ⟨_, .object ms, ?_⟩
    rw [List.map_map]
    rfl

theorem holds_array {names : List String} {items : List Value} {parts : List (Option Value)} :
    Holds names (.array items) parts ↔ items.length ≤ names.length ∧
      parts = (items.map fun v => present (some v)) ++
        List.replicate (names.length - items.length) none := by
  constructor
  · rintro ⟨_, ⟨⟩ | h, rfl⟩
    refine ⟨h, ?_⟩
    rw [List.map_append, List.map_replicate, List.map_map]
    rfl
  · rintro ⟨h, rfl⟩
    refine ⟨_, .list h, ?_⟩
    rw [List.map_append, List.map_replicate, List.map_map]
    rfl

theorem holds_withoutNulls {names : List String} {v : Value} (hv : v.Regular)
    {parts : List (Option Value)} :
    Holds names v.withoutNulls parts ↔
      ∃ parts', Holds names v parts' ∧ parts = parts'.map (Option.map Value.withoutNulls) := by
  cases hv with
  | @object ms keys _ =>
    have hparts : (names.map fun name => present (get? name (membersWithoutNulls ms))) =
        (names.map fun name => present (get? name ms)).map (Option.map Value.withoutNulls) := by
      rw [List.map_map]
      refine List.map_congr_left fun name _ => ?_
      rw [get?_membersWithoutNulls keys, present_map_withoutNulls, present_present]
      rfl
    rw [Value.withoutNulls, holds_object, hparts]
    constructor
    · exact fun h => ⟨_, holds_object.mpr rfl, h⟩
    · rintro ⟨_, h, hmap⟩
      rw [hmap, holds_object.mp h]
  | @array items _ =>
    have hparts (n : Nat) : ((items.map Value.withoutNulls).map fun v => present (some v)) ++
          List.replicate n none =
        ((items.map fun v => present (some v)) ++ List.replicate n none).map
          (Option.map Value.withoutNulls) := by
      rw [List.map_append, List.map_replicate, List.map_map, List.map_map]
      refine congrArg (· ++ _) (List.map_congr_left fun v _ => ?_)
      exact present_map_withoutNulls (some v)
    rw [Value.withoutNulls, itemsWithoutNulls_eq_map, holds_array, List.length_map, hparts]
    constructor
    · rintro ⟨hle, rfl⟩
      exact ⟨_, holds_array.mpr ⟨hle, rfl⟩, rfl⟩
    · rintro ⟨_, h, rfl⟩
      obtain ⟨hle, rfl⟩ := holds_array.mp h
      exact ⟨hle, rfl⟩
  | _ =>
    constructor
    · rintro ⟨_, ⟨⟩, -⟩
    · rintro ⟨_, ⟨_, ⟨⟩, -⟩, -⟩

theorem readsPoint_withoutNulls {v : Value} (hv : v.Regular) {p : Point} :
    ReadsPoint v.withoutNulls p ↔ ReadsPoint v p := by
  unfold ReadsPoint
  simp only [holds_withoutNulls hv]
  constructor
  · rintro ⟨_, _, _, ⟨parts, hparts, heq⟩, hdate, hvalue, hnorm⟩
    rcases parts with _ | ⟨date, _ | ⟨value, _ | ⟨norm, _ | _⟩⟩⟩ <;> cases heq
    exact ⟨date, value, norm, hparts, readsDate_withoutNulls.mp hdate,
      readsNumber_withoutNulls.mp hvalue, readsNumber_withoutNulls.mp hnorm⟩
  · rintro ⟨date, value, norm, hparts, hdate, hvalue, hnorm⟩
    exact ⟨_, _, _, ⟨_, hparts, rfl⟩, readsDate_withoutNulls.mpr hdate,
      readsNumber_withoutNulls.mpr hvalue, readsNumber_withoutNulls.mpr hnorm⟩

theorem Holds.regular {names : List String} {v : Value} {parts : List (Option Value)}
    (h : Holds names v parts) (hv : v.Regular) {w : Value} (hw : some w ∈ parts) : w.Regular := by
  obtain ⟨given, hgiven, rfl⟩ := h
  obtain ⟨part, hpart, hpresent⟩ := List.mem_map.mp hw
  exact hgiven.regular hv (eq_some_of_present hpresent ▸ hpart)

theorem Holds.unique {names : List String} {v : Value} {parts parts' : List (Option Value)}
    (h : Holds names v parts) (h' : Holds names v parts') : parts = parts' := by
  obtain ⟨given, hgiven, rfl⟩ := h
  obtain ⟨given', hgiven', rfl⟩ := h'
  rw [hgiven.unique hgiven']

theorem readsSeries_withoutNulls {v : Value} (hv : v.Regular) {s : Series} :
    ReadsSeries v.withoutNulls s ↔ ReadsSeries v s := by
  unfold ReadsSeries
  simp only [holds_withoutNulls hv]
  have hpoints {name points : Option Value} (h : Holds ["series", "data"] v [name, points]) :
      ReadsList ReadsPoint (points.map Value.withoutNulls) s.points ↔
        ReadsList ReadsPoint points s.points := by
    refine readsList_withoutNulls fun items hitems w hw p => readsPoint_withoutNulls ?_
    have hregular : (Value.array items).Regular := h.regular hv (by simp [hitems])
    exact hregular.of_mem hw
  constructor
  · rintro ⟨_, _, ⟨parts, hparts, heq⟩, hname, hlist⟩
    rcases parts with _ | ⟨name, _ | ⟨points, _ | _⟩⟩ <;> cases heq
    exact ⟨name, points, hparts, readsName_withoutNulls.mp hname, (hpoints hparts).mp hlist⟩
  · rintro ⟨name, points, hparts, hname, hlist⟩
    exact ⟨_, _, ⟨_, hparts, rfl⟩, readsName_withoutNulls.mpr hname, (hpoints hparts).mpr hlist⟩

theorem readsTimeline_withoutNulls {payload : Members} (h : payload.Regular)
    {series : List Series} :
    ReadsTimeline (membersWithoutNulls payload) series ↔ ReadsTimeline payload series := by
  unfold ReadsTimeline
  cases h with
  | object keys hvalues =>
    rw [get?_membersWithoutNulls keys, present_map_withoutNulls, present_present]
    refine readsList_withoutNulls fun items hitems v hv s => readsSeries_withoutNulls ?_
    have hregular : (Value.array items).Regular :=
      hvalues _ (mem_of_get? (eq_some_of_present hitems))
    exact hregular.of_mem hv

/-! ## The timeline of an answer -/

/-- An answer without a timeline has no series. Otherwise it has some just if its timeline is of the
right shape at every depth, and then series and points stand for those of the answer, one to one and
in order. Null members at any depth make no difference, and one point of the wrong shape is an
error. -/
theorem ofPayload_reads {payload : Members} (h : payload.Regular) :
    (present (get? "timeline" payload) = none → Series.ofPayload payload = .ok []) ∧
    ((∃ series, Series.ofPayload payload = .ok series) ↔ HasTimeline payload) ∧
    (∀ series, Series.ofPayload payload = .ok series ↔ ReadsTimeline payload series) ∧
    (∀ series, Series.ofPayload (membersWithoutNulls payload) = .ok series ↔
      Series.ofPayload payload = .ok series) ∧
    ∀ items, get? "timeline" payload = some (.array items) → ∀ v ∈ items, ∀ name points,
      Holds ["series", "data"] v [name, some (.array points)] → ∀ p ∈ points, ¬ IsPoint p →
        ∃ e, Series.ofPayload payload = .error e := by
  have hreads {series : List Series} :
      Series.ofPayload payload = .ok series ↔ ReadsTimeline payload series := readsTimeline_iff h
  have hshape : (∃ series, Series.ofPayload payload = .ok series) ↔ HasTimeline payload := by
    simp only [hreads, exists_readsTimeline]
  refine ⟨fun hnone => ?_, hshape, fun _ => hreads, fun series => ?_, ?_⟩
  · rw [hreads, ReadsTimeline, hnone]
    exact .missing
  · have hregular : Members.Regular (membersWithoutNulls payload) := h.withoutNulls
    rw [readsTimeline_iff hregular, readsTimeline_withoutNulls h, hreads]
  · intro items hitems v hv name points hparts p hp hbad
    cases hresult : Series.ofPayload payload with
    | error e => exact ⟨e, rfl⟩
    | ok series =>
      have hseries : ∀ v ∈ items, IsSeries v :=
        hshape.mp ⟨series, hresult⟩ (.array items) (by rw [hitems]; rfl)
      obtain ⟨parts, hparts', hshapes⟩ := hseries v hv
      cases hparts.unique hparts'
      cases hshapes with
      | cons _ hshapes =>
        cases hshapes with
        | cons hpoints _ => exact absurd (hpoints _ rfl p hp) hbad

/-- One series by place, without a name, and one point by name. -/
theorem ofPayload_reads_places :
    ReadsTimeline
      [("status", .bool true),
        ("timeline", .array [.array [.null, .array [.object
          [("norm", .null), ("value", .string " "), ("date", .number (.integer 7))]]]])]
      [⟨"Unknown", [⟨"7", none, none⟩]⟩] := by
  refine ((ofPayload_reads (.object (by decide) ?_)).2.2.1 _).mp rfl
  have hpoint : Members.Regular
      [("norm", .null), ("value", .string " "), ("date", .number (.integer 7))] := by
    refine .object (by decide) ?_
    simp only [List.forall_mem_cons]
    exact ⟨.null, .string _, .number (by decide : 7 < UInt64.size), nofun⟩
  simp only [List.forall_mem_cons]
  refine ⟨.bool true, .array ?_, nofun⟩
  simp only [List.forall_mem_cons]
  refine ⟨.array ?_, nofun⟩
  simp only [List.forall_mem_cons]
  exact ⟨.null, .array (List.forall_mem_cons.mpr ⟨hpoint, nofun⟩), nofun⟩

end NewsSearch.Timeline
