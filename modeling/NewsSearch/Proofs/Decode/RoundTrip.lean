import NewsSearch.CommandLine.Run
import NewsSearch.Proofs.Decode.Printed

/-!
# Filter sets and articles through JSON

What is printed for a filter set or for a list of articles, on one line or over several, reads back
as the same. So two of them that differ anywhere, if only by a missing text where the other has an
empty one, are printed differently.
-/

namespace NewsSearch

open Json Json.Printer Decode

variable {style : Style} {room depth : Nat}

theorem reads_texts (hs : style.Spaces) (vs : List String) :
    FilterSet.texts.Reads (room + 1) (Printer.text style depth (FilterSet.listValue vs)) vs :=
  reads_list hs fun s _ => reads_string s

theorem separate_filterFields : Record.Separate FilterSet.fields := by
  unfold Record.Separate
  decide

theorem reads_filterSet (hs : style.Spaces) (f : FilterSet) :
    FilterSet.decoder.Reads (room + 2) (Printer.text style depth f.toValue) f := by
  refine Record.reads_fields hs separate_filterFields ?_
  exact
    .cons (Record.reads_of _ _ (reads_text f.startDate)) <|
    .cons (Record.reads_of _ _ (reads_text f.endDate)) <|
    .cons (Record.reads_of _ _ (reads_text f.timespan)) <|
    .cons (Record.reads_of _ _ (reads_texts hs f.keywords)) <|
    .cons (Record.reads_of _ _ (reads_texts hs f.domains)) <|
    .cons (Record.reads_of _ _ (reads_texts hs f.domainsExact)) <|
    .cons (Record.reads_of _ _ (reads_texts hs f.countries)) <|
    .cons (Record.reads_of _ _ (reads_texts hs f.languages)) <|
    .cons (Record.reads_of _ _ (reads_texts hs f.themes)) <|
    .cons (Record.reads_of _ _ (reads_text f.tone)) <|
    .cons (Record.reads_of _ _ (reads_text f.toneAbsolute)) <|
    .cons (Record.reads_of _ _ (reads_text f.near)) <|
    .cons (Record.reads_of _ _ (reads_text f.repeated)) <|
    .cons (Record.reads_of _ _ (reads_uint32 f.maxRecords)) (.nil _)

theorem separate_articleFields : Record.Separate Article.fields := by
  unfold Record.Separate
  decide

theorem reads_article (hs : style.Spaces) (a : Article) :
    Article.decoder.Reads (room + 1) (Printer.text style depth a.toValue) a := by
  refine Record.reads_fields hs separate_articleFields ?_
  exact
    .cons (Record.reads_of _ _ (reads_text a.url)) <|
    .cons (Record.reads_of _ _ (reads_text a.urlMobile)) <|
    .cons (Record.reads_of _ _ (reads_text a.title)) <|
    .cons (Record.reads_of _ _ (reads_text a.seenDate)) <|
    .cons (Record.reads_of _ _ (reads_text a.socialImage)) <|
    .cons (Record.reads_of _ _ (reads_text a.domain)) <|
    .cons (Record.reads_of _ _ (reads_text a.language)) <|
    .cons (Record.reads_of _ _ (reads_text a.sourceCountry)) (.nil _)

theorem reads_articles (hs : style.Spaces) (as : List Article) :
    Article.decoder.list.Reads (room + 2) (Printer.text style depth (Article.listValue as)) as :=
  reads_list hs fun a _ => reads_article hs a

/-! ## Whole texts -/

theorem decode_filterSet (f : FilterSet) :
    FilterSet.decode f.toValue.compact = .ok f ∧ FilterSet.decode f.toValue.pretty = .ok f :=
  have h := Decoder.decode_printed fun _ hs => reads_filterSet hs f
  ⟨h.1, h.2.1⟩

/-- The command line ends its text with a line break. -/
theorem decode_articles (as : List Article) :
    Article.decoder.list.decode (Article.listValue as).compact = .ok as ∧
      Article.decoder.list.decode (Article.listValue as).pretty = .ok as ∧
      Article.decoder.list.decode (CommandLine.printArticles .json as) = .ok as :=
  Decoder.decode_printed fun _ hs => reads_articles hs as

/-- What is printed for a filter set or for articles, on one line or over several, is read back as
the same. No two of them have the same text. -/
theorem printed_reads_back :
    (∀ f : FilterSet, FilterSet.decode f.toValue.compact = .ok f ∧
      FilterSet.decode f.toValue.pretty = .ok f) ∧
    (∀ as : List Article, Article.decoder.list.decode (Article.listValue as).compact = .ok as ∧
      Article.decoder.list.decode (Article.listValue as).pretty = .ok as ∧
      Article.decoder.list.decode (CommandLine.printArticles .json as) = .ok as) ∧
    (∀ f g : FilterSet, f ≠ g → f.toValue.compact ≠ g.toValue.compact) ∧
    ∀ as bs : List Article, as ≠ bs →
      (Article.listValue as).compact ≠ (Article.listValue bs).compact := by
  refine ⟨decode_filterSet, decode_articles, ?_, ?_⟩
  · intro f g hne htext
    have hf := (decode_filterSet f).1
    rw [htext, (decode_filterSet g).1] at hf
    exact hne (Except.ok.inj hf).symm
  · intro as bs hne htext
    have has := (decode_articles as).1
    rw [htext, (decode_articles bs).1] at has
    exact hne (Except.ok.inj has).symm

end NewsSearch
