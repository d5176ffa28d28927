import NewsSearch.Client.Request
import NewsSearch.Proofs.Query.Grammar
import NewsSearch.Proofs.Text.Percent

/-!
# Reading a request's URL back

The part of a URL after the question mark is cut at every `&`, each piece at its first `=`, and the
values are decoded. What comes out are the request's pairs, whatever its filters hold: no value can
add a parameter, end one or run into the next.
-/

namespace NewsSearch.Request

open Text

/-! ## The reader -/

/-- The name and the value in one piece of a query. -/
def readPair? (piece : List Char) : Option (String × String) :=
  match piece.dropWhile (· != '=') with
  | [] => none
  | _ :: value => (Percent.decode? value).map (String.ofList (piece.takeWhile (· != '=')), ·)

/-- The names and values in a query. -/
def readPairs? (query : List Char) : Option (List (String × String)) :=
  (query.splitOn '&').mapM readPair?

/-! ## One pair -/

/-- A name that does not end a piece or its own part of it. -/
def IsPlainName (name : String) : Prop := '&' ∉ name.toList ∧ '=' ∉ name.toList

instance (name : String) : Decidable (IsPlainName name) := inferInstanceAs (Decidable (_ ∧ _))

/-- A piece has the pair's name as it is. The value has only unreserved characters and percent
signs. -/
def WritesPair (p : String × String) (piece : String) : Prop :=
  ∃ value, piece = p.1 ++ "=" ++ value ∧
    ∀ c ∈ value.toList, Percent.IsUnreserved c ∨ c = '%'

theorem writesPair_pairText (p : String × String) : WritesPair p (pairText p) :=
  ⟨Percent.encode p.2, rfl, fun _ hc => (Percent.mem_encode hc).imp_left Percent.isUnreserved_iff.mp⟩

theorem pairText_toList (p : String × String) :
    (pairText p).toList = p.1.toList ++ '=' :: (Percent.encode p.2).toList := by
  simp [pairText]

theorem readPair?_pairText {p : String × String} (h : '=' ∉ p.1.toList) :
    readPair? (pairText p).toList = some p := by
  have hname : ∀ c ∈ p.1.toList, (c != '=') = true := fun c hc => by
    rw [bne_iff_ne]
    rintro rfl
    exact h hc
  unfold readPair?
  rw [pairText_toList, List.dropWhile_append_of_pos hname, List.takeWhile_append_of_pos hname]
  simp [Percent.decode?_encode]

theorem not_mem_pairText {p : String × String} (h : '&' ∉ p.1.toList) :
    '&' ∉ (pairText p).toList := by
  rw [pairText_toList, List.mem_append, List.mem_cons]
  rintro (hname | heq | hvalue)
  · exact h hname
  · exact absurd heq (by decide)
  · rcases Percent.mem_encode hvalue with hc | hc
    · exact absurd hc (by decide)
    · exact absurd hc (by decide)

/-! ## All pairs -/

theorem mapM_map_eq_some {α β : Type} {f : β → Option α} {g : α → β} {l : List α}
    (h : ∀ a ∈ l, f (g a) = some a) : (l.map g).mapM f = some l := by
  induction l with
  | nil => rfl
  | cons a l ih =>
    rw [List.map_cons, List.mapM_cons, h a List.mem_cons_self,
      ih fun b hb => h b (List.mem_cons_of_mem a hb)]
    rfl

theorem readPairs?_intercalate {ps : List (String × String)} (hne : ps ≠ [])
    (h : ∀ p ∈ ps, IsPlainName p.1) :
    readPairs? ("&".intercalate (ps.map pairText)).toList = some ps := by
  have hsplit : ((ps.map pairText).map String.toList) ≠ [] := by simpa using hne
  have hpieces : ∀ l ∈ (ps.map pairText).map String.toList, '&' ∉ l := by
    simp only [List.map_map, List.mem_map]
    rintro _ ⟨p, hp, rfl⟩
    exact not_mem_pairText (h p hp).1
  unfold readPairs?
  rw [String.toList_intercalate, show "&".toList = ['&'] from rfl,
    List.splitOn_intercalate '&' hpieces hsplit, List.map_map]
  exact mapM_map_eq_some fun p hp => readPair?_pairText (h p hp).2

theorem isPlainName_of_mem_pairs {r : Request} (h : ∀ p ∈ r.query.params, IsPlainName p.1)
    {p : String × String} (hp : p ∈ r.pairs) : IsPlainName p.1 := by
  simp only [pairs, List.cons_append, List.mem_cons, List.mem_append, List.not_mem_nil,
    or_false] at hp
  rcases hp with rfl | hp | rfl | rfl
  · exact (by decide : IsPlainName "query")
  · exact h p hp
  · exact (by decide : IsPlainName "mode")
  · exact (by decide : IsPlainName "format")

theorem isPlainName_of_compile {f : ValidatedFilters} {p : String × String}
    (hp : p ∈ (Query.compile f).params) : IsPlainName p.1 := by
  have hparams := Query.paramsOf_compile f
  generalize f.window = window, (Query.compile f).params = params at hparams hp
  cases hparams with
  | range first last limit =>
    simp only [List.mem_cons, List.not_mem_nil, or_false] at hp
    rcases hp with rfl | rfl | rfl
    · exact (by decide : IsPlainName "startdatetime")
    · exact (by decide : IsPlainName "enddatetime")
    · exact (by decide : IsPlainName "maxrecords")
  | span timespan limit =>
    simp only [List.mem_cons, List.not_mem_nil, or_false] at hp
    rcases hp with rfl | rfl
    · exact (by decide : IsPlainName "timespan")
    · exact (by decide : IsPlainName "maxrecords")

/-- A URL is the base and a query with one piece for each pair in order. Outside the names the
pieces have only unreserved characters, percent signs and the `=` after the name, and reading the
query gives exactly the pairs. -/
theorem url_reads_back (r : Request) (base : String)
    (h : ∀ p ∈ r.query.params, IsPlainName p.1) :
    ∃ pieces, List.Forall₂ WritesPair r.pairs pieces ∧
      r.url base = base ++ "?" ++ "&".intercalate pieces ∧
      readPairs? ("&".intercalate pieces).toList = some r.pairs := by
  refine ⟨r.pairs.map pairText, ?_, rfl, ?_⟩
  · rw [List.forall₂_map_right_iff, List.forall₂_same]
    exact fun p _ => writesPair_pairText p
  · exact readPairs?_intercalate (by simp [pairs]) fun p hp => isPlainName_of_mem_pairs h hp

/-- A keyword that looks like the end of its parameter and like an encoded text. -/
def awkward : Request :=
  ⟨Query.compile
      ⟨.span ⟨"1", .hours, "1h"⟩, ["a&mode=x#%26 +é\x01"], [], [], [], [], [], none, none, none, none,
        250⟩,
    .timeline .tone⟩

theorem url_reads_back_awkward :
    (∀ p ∈ awkward.query.params, IsPlainName p.1) ∧
      ∃ pieces, List.Forall₂ WritesPair awkward.pairs pieces ∧
        awkward.url "http://h/doc" = "http://h/doc" ++ "?" ++ "&".intercalate pieces ∧
        readPairs? ("&".intercalate pieces).toList = some
          [("query", "\"a&mode=x#%26 +é\x01\" "), ("timespan", "1h"), ("maxrecords", "250"),
            ("mode", "timelinetone"), ("format", "json")] :=
  ⟨fun _ => isPlainName_of_compile,
    url_reads_back awkward "http://h/doc" fun _ => isPlainName_of_compile⟩

end NewsSearch.Request
