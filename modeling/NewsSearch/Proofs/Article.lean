import NewsSearch.Article
import NewsSearch.Proofs.Decode.Fields

/-!
# The entries of an article list

Which entries of an answer are articles and what they say, from the entry alone. All others are left
out, and none of them touches the rest.
-/

namespace NewsSearch.Article

open Json Decode Decode.Record

/-! ## What an entry reads as -/

/-- A part that is null is like none. -/
inductive ReadsText : Option Value → Option String → Prop
  | missing : ReadsText none none
  | null : ReadsText (some .null) none
  | text (s : String) : ReadsText (some (.string s)) (some s)

/-- The parts in the order in which a list gives them. -/
def parts (a : Article) : List (Option String) :=
  [a.url, a.urlMobile, a.title, a.seenDate, a.socialImage, a.domain, a.language, a.sourceCountry]

/-- The two names of the mobile address do not both stand in the object. -/
def OneMobile (ms : Members) : Prop := get? "url_mobile" ms = none ∨ get? "urlMobile" ms = none

/-- What an object has for each part. -/
def given (ms : Members) : List (Option Value) :=
  [get? "url" ms, (get? "url_mobile" ms).or (get? "urlMobile" ms), get? "title" ms,
   get? "seendate" ms, get? "socialimage" ms, get? "domain" ms, get? "language" ms,
   get? "sourcecountry" ms]

/-- An entry is an object, or a list of at most eight parts in order. -/
inductive Reads : Value → Article → Prop
  | object {ms : Members} {a : Article} (hmobile : OneMobile ms)
      (h : List.Forall₂ ReadsText (given ms) a.parts) : Reads (.object ms) a
  | list {items : List Value} {a : Article} (hlength : items.length ≤ 8)
      (h : List.Forall₂ ReadsText
        (items.map some ++ List.replicate (8 - items.length) none) a.parts) :
      Reads (.array items) a

/-! ## Which entries are articles -/

def isText : Value → Bool
  | .null | .string _ => true
  | _ => false

/-- The names of the parts, the mobile address with both of its names. -/
def keys : List String :=
  ["url", "url_mobile", "urlMobile", "title", "seendate", "socialimage", "domain", "language",
   "sourcecountry"]

def isArticle : Value → Bool
  | .object ms => (keys.all fun key => (get? key ms).all isText) &&
      ((get? "url_mobile" ms).isNone || (get? "urlMobile" ms).isNone)
  | .array items => decide (items.length ≤ 8) && items.all isText
  | _ => false

/-! ## Parts -/

theorem exists_readsText {v : Option Value} : (∃ t, ReadsText v t) ↔ v.all isText := by
  rcases v with _ | (_ | b | n | s | vs | ms)
  case none => exact iff_of_true ⟨_, .missing⟩ rfl
  case some.null => exact iff_of_true ⟨_, .null⟩ rfl
  case some.string => exact iff_of_true ⟨_, .text s⟩ rfl
  all_goals exact iff_of_false (by rintro ⟨_, ⟨⟩⟩) (by simp [isText])

theorem part_text {v : Option Value} {t : Option String} :
    part Article.text none v = some t ↔ ReadsText v t := by
  rcases v with _ | (_ | b | n | s | vs | ms) <;> constructor <;> rintro ⟨⟩ <;> constructor

theorem distinct_fields : Distinct fields := by
  unfold Distinct
  decide

theorem independent_fields : Independent fields := by
  simp only [Independent, fields, List.pairwise_cons, List.mem_cons, forall_eq_or_imp,
    List.not_mem_nil, false_imp_iff, implies_true, List.Pairwise.nil, and_true]
  and_intros <;> exact Field.apart_of fun _ _ _ => rfl

theorem givenOnce_fields {ms : Members} : (∀ f ∈ fields, f.GivenOnce ms) ↔ OneMobile ms := by
  have hone {name : String} {set : Option String → Article → Article} :
      (Decode.Field.of name [] text set).GivenOnce ms := Field.givenOnce_of_one rfl
  have hmobile {set : Option String → Article → Article} :
      (Decode.Field.of "url_mobile" ["urlMobile"] text set).GivenOnce ms ↔ OneMobile ms :=
    Field.givenOnce_of_two rfl (by decide)
  simp only [fields, List.forall_mem_cons, hone, hmobile, true_and]
  simp

theorem lookup_fields (ms : Members) : fields.map (·.lookup ms) = given ms := by
  have hone {name : String} {set : Option String → Article → Article} :
      (Decode.Field.of name [] text set).lookup ms = get? name ms := Field.lookup_of_one rfl
  have hmobile {set : Option String → Article → Article} :
      (Decode.Field.of "url_mobile" ["urlMobile"] text set).lookup ms =
        (get? "url_mobile" ms).or (get? "urlMobile" ms) := Field.lookup_of_two rfl
  simp only [fields, given, List.map_cons, List.map_nil, hone, hmobile]

theorem fill_text {name : String} {aliases : List String} {set : Option String → Article → Article}
    {s a : Article} (hblank : set none s = s) {fields : List (Decode.Field Article)}
    {v : Option Value} {rest : List (Option Value)} :
    fill (.of name aliases text set :: fields) (v :: rest) s = some a ↔
      ∃ t, ReadsText v t ∧ fill fields rest (set t s) = some a := by
  rw [fill_of hblank]
  simp only [Option.bind_eq_some_iff, part_text]

theorem exists_eight {α : Type} {xs : List α} (h : xs.length = 8) :
    ∃ x₁ x₂ x₃ x₄ x₅ x₆ x₇ x₈, xs = [x₁, x₂, x₃, x₄, x₅, x₆, x₇, x₈] := by
  rcases xs with
    _ | ⟨x₁, _ | ⟨x₂, _ | ⟨x₃, _ | ⟨x₄, _ | ⟨x₅, _ | ⟨x₆, _ | ⟨x₇, _ | ⟨x₈, _ | _⟩⟩⟩⟩⟩⟩⟩⟩ <;>
    cases h
  exact ⟨x₁, x₂, x₃, x₄, x₅, x₆, x₇, x₈, rfl⟩

theorem fill_fields {given : List (Option Value)} (hlength : given.length = 8) {a : Article} :
    fill fields given empty = some a ↔ List.Forall₂ ReadsText given a.parts := by
  obtain ⟨v₁, v₂, v₃, v₄, v₅, v₆, v₇, v₈, rfl⟩ := exists_eight hlength
  -- A field may be null, which leaves its part blank, so each step of the filling reads one part.
  unfold fields empty
  simp (disch := rfl) only [fill_text]
  constructor
  · rintro ⟨_, h₁, _, h₂, _, h₃, _, h₄, _, h₅, _, h₆, _, h₇, _, h₈, ⟨⟩⟩
    exact .cons h₁ (.cons h₂ (.cons h₃ (.cons h₄ (.cons h₅ (.cons h₆ (.cons h₇ (.cons h₈ .nil)))))))
  · intro h
    simp only [parts, List.forall₂_cons] at h
    obtain ⟨h₁, h₂, h₃, h₄, h₅, h₆, h₇, h₈, -⟩ := h
    exact ⟨_, h₁, _, h₂, _, h₃, _, h₄, _, h₅, _, h₆, _, h₇, _, h₈, rfl⟩

/-! ## Entries -/

theorem reads_iff {v : Value} (hv : v.Regular) {a : Article} :
    decoder.ofValue v = .ok a ↔ Reads v a := by
  unfold decoder
  cases hv with
  | @object ms keys _ =>
    have hfill : fill record.fields (record.fields.map (·.lookup ms)) record.blank = some a ↔
        List.Forall₂ ReadsText (given ms) a.parts := by
      rw [← fill_fields rfl, ← lookup_fields]
      rfl
    rw [ofValue_object_iff (r := record) distinct_fields independent_fields keys, hfill]
    constructor
    · rintro ⟨honce, h⟩
      exact .object (givenOnce_fields.mp honce) h
    · rintro ⟨hmobile, h⟩
      exact ⟨givenOnce_fields.mpr hmobile, h⟩
  | @array items _ =>
    have hfill (hle : items.length ≤ 8) :
        fill record.fields (items.map some) record.blank = some a ↔
          List.Forall₂ ReadsText
            (items.map some ++ List.replicate (8 - items.length) none) a.parts := by
      rw [← fill_fields (by simp [hle]), fill_append_none]
      rfl
    rw [ofValue_array_iff]
    constructor
    · rintro ⟨hle, h⟩
      exact .list hle ((hfill hle).mp h)
    · rintro (_ | ⟨hle, h⟩)
      exact ⟨hle, (hfill hle).mpr h⟩
  | _ => exact iff_of_false nofun (by rintro ⟨⟩)

theorem exists_parts {ts : List (Option String)} (h : ts.length = 8) :
    ∃ a : Article, a.parts = ts := by
  obtain ⟨t₁, t₂, t₃, t₄, t₅, t₆, t₇, t₈, rfl⟩ := exists_eight h
  exact ⟨⟨t₁, t₂, t₃, t₄, t₅, t₆, t₇, t₈⟩, rfl⟩

/-- Each part can be read for itself. -/
theorem exists_forall₂_parts {vs : List (Option Value)} (hlength : vs.length = 8) :
    (∃ a : Article, List.Forall₂ ReadsText vs a.parts) ↔ ∀ v ∈ vs, v.all isText := by
  simp only [← exists_readsText, ← exists_forall₂_iff]
  constructor
  · rintro ⟨a, h⟩
    exact ⟨_, h⟩
  · rintro ⟨ts, h⟩
    obtain ⟨a, rfl⟩ := exists_parts (h.length_eq.symm.trans hlength)
    exact ⟨a, h⟩

theorem isArticle_object {ms : Members} :
    isArticle (.object ms) ↔ OneMobile ms ∧ ∀ v ∈ given ms, v.all isText := by
  unfold isArticle OneMobile
  simp only [keys, given, List.all_cons, List.all_nil, List.forall_mem_cons, Bool.and_eq_true,
    Bool.or_eq_true, Option.isNone_iff_eq_none]
  cases get? "url_mobile" ms <;> cases get? "urlMobile" ms <;> simp

theorem exists_reads {v : Value} : (∃ a, Reads v a) ↔ isArticle v := by
  cases v with
  | object ms =>
    rw [isArticle_object, ← exists_forall₂_parts rfl]
    constructor
    · rintro ⟨a, hmobile, h⟩
      exact ⟨hmobile, a, h⟩
    · rintro ⟨hmobile, a, h⟩
      exact ⟨a, .object hmobile h⟩
  | array items =>
    simp only [isArticle, Bool.and_eq_true, decide_eq_true_eq, List.all_eq_true]
    have hparts (hle : items.length ≤ 8) :
        (∃ a : Article, List.Forall₂ ReadsText
          (items.map some ++ List.replicate (8 - items.length) none) a.parts) ↔
            ∀ v ∈ items, isText v := by
      rw [exists_forall₂_parts (by simp [hle]), List.forall_mem_append, List.forall_mem_map]
      simp
    constructor
    · rintro ⟨a, _ | ⟨hle, h⟩⟩
      exact ⟨hle, (hparts hle).mp ⟨a, h⟩⟩
    · rintro ⟨hle, h⟩
      obtain ⟨a, h⟩ := (hparts hle).mpr h
      exact ⟨a, .list hle h⟩
  | _ => exact iff_of_false (by rintro ⟨_, ⟨⟩⟩) (by simp [isArticle])

theorem ReadsText.unique {v : Option Value} {t t' : Option String} (h : ReadsText v t)
    (h' : ReadsText v t') : t = t' := by
  cases h <;> cases h' <;> rfl

theorem parts_inj {a b : Article} (h : a.parts = b.parts) : a = b := by
  cases a
  cases b
  simpa [parts] using h

theorem Reads.unique {v : Value} {a b : Article} (ha : Reads v a) (hb : Reads v b) : a = b := by
  have hunique : Relator.RightUnique ReadsText := fun _ _ _ => ReadsText.unique
  cases ha with
  | object _ h =>
    cases hb with
    | object _ h' => exact parts_inj (List.right_unique_forall₂' hunique h h')
  | list _ h =>
    cases hb with
    | list _ h' => exact parts_inj (List.right_unique_forall₂' hunique h h')

/-! ## Members that stand for no part -/

/-- The entry without its other members. -/
def onlyParts : Value → Value
  | .object ms => .object (ms.filter fun m => keys.contains m.1)
  | v => v

theorem effect?_of_other {m : String × Value} (h : keys.contains m.1 = false) :
    effect? fields m = none := by
  have hnames : ∀ f ∈ fields, ∀ name ∈ f.names, keys.contains name = true := by decide
  cases he : effect? fields m with
  | none => rfl
  | some e =>
    obtain ⟨f, hf, hkey, -⟩ := (effect?_eq_some_iff distinct_fields).mp he
    rw [hnames f hf _ hkey] at h
    cases h

theorem toOption_onlyParts (v : Value) :
    (decoder.ofValue (onlyParts v)).toOption = (decoder.ofValue v).toOption := by
  cases v with
  | object ms =>
    have hmembers (ms : Members) : (decoder.ofValue (.object ms)).toOption =
        Effect.perform [] empty (ms.filterMap (effect? fields)) := membersOfValue_toOption _ _ _ _
    rw [onlyParts, hmembers, hmembers, List.filterMap_filter]
    congr 1
    refine List.filterMap_congr fun m _ => ?_
    split
    case isTrue => rfl
    case isFalse h => exact (effect?_of_other (Bool.eq_false_iff.mpr h)).symm
  | _ => rfl

/-! ## The entries of an answer -/

/-- The articles among some entries. -/
def among (items : List Value) : List Article :=
  items.filterMap fun v => (decoder.ofValue v).toOption

theorem among_append (xs ys : List Value) : among (xs ++ ys) = among xs ++ among ys :=
  List.filterMap_append

theorem among_onlyParts (items : List Value) : among (items.map onlyParts) = among items := by
  unfold among
  rw [List.filterMap_map]
  exact List.filterMap_congr fun v _ => toOption_onlyParts v

theorem forall₂_among {items : List Value} (h : ∀ v ∈ items, v.Regular) :
    List.Forall₂ Reads (items.filter isArticle) (among items) := by
  induction items with
  | nil => exact .nil
  | cons v items ih =>
    obtain ⟨hv, hitems⟩ := List.forall_mem_cons.mp h
    have ih := ih hitems
    unfold among at ih ⊢
    rw [List.filter_cons, List.filterMap_cons]
    cases hdecode : decoder.ofValue v with
    | error e =>
      have hnot : ¬ isArticle v := by
        rw [← exists_reads]
        rintro ⟨a, ha⟩
        rw [(reads_iff hv).mpr ha] at hdecode
        cases hdecode
      rw [if_neg hnot]
      exact ih
    | ok a =>
      have hreads := (reads_iff hv).mp hdecode
      rw [if_pos (exists_reads.mp ⟨a, hreads⟩)]
      exact .cons hreads ih

theorem among_eq_iff {items : List Value} (h : ∀ v ∈ items, v.Regular) {as : List Article} :
    among items = as ↔ List.Forall₂ Reads (items.filter isArticle) as := by
  have hunique : Relator.RightUnique Reads := fun _ _ _ => Reads.unique
  constructor
  · rintro rfl
    exact forall₂_among h
  · exact List.right_unique_forall₂' hunique (forall₂_among h)

theorem ofPayload_of_array {payload : Members} {items : List Value}
    (h : get? "articles" payload = some (.array items)) : ofPayload payload = among items := by
  unfold ofPayload
  rw [h]
  rfl

theorem ofPayload_put (items : List Value) (payload : Members) :
    ofPayload (put "articles" (.array items) payload) = among items :=
  ofPayload_of_array (by simp)

theorem ofPayload_of_not_array {payload : Members}
    (h : ∀ items, get? "articles" payload ≠ some (.array items)) : ofPayload payload = [] := by
  unfold ofPayload
  split
  case h_1 items heq => exact absurd heq (h items)
  case h_2 => rfl

/-- An answer without a list of articles has none. Otherwise its articles are what the entries that
are articles say, one for each and in order; what else an object says does not matter. So the
articles of two lists together are those of one and then those of the other, and an entry that is no
article may as well not be there. -/
theorem ofPayload_keeps {payload : Members} (h : payload.Regular) :
    ((∀ items, get? "articles" payload ≠ some (.array items)) → ofPayload payload = []) ∧
    (∀ items, get? "articles" payload = some (.array items) → ∀ as,
      ofPayload payload = as ↔ List.Forall₂ Reads (items.filter isArticle) as) ∧
    (∀ items, ofPayload (put "articles" (.array (items.map onlyParts)) payload) =
      ofPayload (put "articles" (.array items) payload)) ∧
    (∀ xs ys, ofPayload (put "articles" (.array (xs ++ ys)) payload) =
      ofPayload (put "articles" (.array xs) payload) ++
        ofPayload (put "articles" (.array ys) payload)) ∧
    ∀ xs v ys, get? "articles" payload = some (.array (xs ++ v :: ys)) → isArticle v = false →
      ofPayload payload = ofPayload (put "articles" (.array (xs ++ ys)) payload) := by
  have hregular {items : List Value} (hitems : get? "articles" payload = some (.array items)) :
      ∀ v ∈ items, v.Regular := by
    have harray : (Value.array items).Regular := Members.Regular.of_get? h hitems
    exact fun v hv => harray.of_mem hv
  refine ⟨ofPayload_of_not_array, fun items hitems as => ?_, fun items => ?_, fun xs ys => ?_,
    fun xs v ys hitems hv => ?_⟩
  · rw [ofPayload_of_array hitems]
    exact among_eq_iff (hregular hitems)
  · rw [ofPayload_put, ofPayload_put, among_onlyParts]
  · simp only [ofPayload_put, among_append]
  · have hfilter : (xs ++ v :: ys).filter isArticle = (xs ++ ys).filter isArticle := by
      rw [List.filter_append, List.filter_cons_of_neg (by simp [hv]), ← List.filter_append]
    have hrest : ∀ w ∈ xs ++ ys, w.Regular := by
      intro w hw
      apply hregular hitems
      rcases List.mem_append.mp hw with hw | hw
      · exact List.mem_append_left _ hw
      · exact List.mem_append_right _ (List.mem_cons_of_mem v hw)
    rw [ofPayload_of_array hitems, ofPayload_put, among_eq_iff (hregular hitems), hfilter]
    exact forall₂_among hrest

/-- An object under the mobile address's other name, an object with both of its names, a list by
place, and a title that is no text. -/
def mixedEntries : List Value :=
  [.object [("urlMobile", .string "m"), ("rank", .number (.integer 1)), ("title", .null)],
   .object [("url_mobile", .null), ("urlMobile", .string "m")],
   .array [.string "u", .null],
   .object [("title", .number (.integer 42))]]

theorem ofPayload_keeps_mixed :
    ofPayload [("articles", .array mixedEntries)] =
        [{ empty with urlMobile := some "m" }, { empty with url := some "u" }] ∧
      List.Forall₂ Reads (mixedEntries.filter isArticle)
        [{ empty with urlMobile := some "m" }, { empty with url := some "u" }] := by
  have hentries : ∀ v ∈ mixedEntries, v.Regular := by
    have hnumber {n : Nat} (h : n < UInt64.size) : (Value.number (.integer n)).Regular := .number h
    simp only [mixedEntries, List.forall_mem_cons]
    refine ⟨.object (by decide) ?_, .object (by decide) ?_, .array ?_, .object (by decide) ?_,
      nofun⟩
    all_goals simp only [List.forall_mem_cons]
    · exact ⟨.string _, hnumber (by decide), .null, nofun⟩
    · exact ⟨.null, .string _, nofun⟩
    · exact ⟨.string _, .null, nofun⟩
    · exact ⟨hnumber (by decide), nofun⟩
  have hregular : Members.Regular [("articles", .array mixedEntries)] :=
    .object (by decide) (List.forall_mem_cons.mpr ⟨.array hentries, nofun⟩)
  have hread := (ofPayload_keeps hregular).2.1 mixedEntries rfl
  exact ⟨rfl, (hread _).mp rfl⟩

end NewsSearch.Article
