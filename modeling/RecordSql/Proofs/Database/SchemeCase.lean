import Mathlib.Data.List.TakeWhile
import RecordSql.Connection.Session
import RecordSql.Database.Link
import RecordSql.Proofs.Statement.MarkerStyles

/-!
# The case of schemes

The scheme of a URL is read twice: for the dialect without regard to the case of its letters, and
for the markers as it is written. So links to one database can differ in their markers, and only
in them.

* `SameButCase`: URLs whose schemes differ at most in the case of their letters.
* `SameButCase.markerStyle_ne_iff`: which of them have different markers.
* `SameButCase.exists_markerStyle`: a URL of PostgreSQL can be written so that it has either.
* `forms_of_url`: what the case of the scheme does to sessions and statements.
-/

namespace RecordSql

open Dialect

/-- The text of a URL from the colon behind its scheme on. -/
def behindScheme (url : String) : List Char :=
  url.toList.dropWhile (· != ':')

/-- The URLs differ at most in the case of the letters before their first colons. -/
def SameButCase (url other : String) : Prop :=
  scheme url = scheme other ∧ behindScheme url = behindScheme other

instance (url other : String) : Decidable (SameButCase url other) :=
  inferInstanceAs (Decidable (_ ∧ _))

/-- The start of a scheme that stands for PostgreSQL, in small letters. -/
def postgres : List Char := "postgres".toList

/-! ## Schemes -/

theorem toList_scheme (url : String) :
    (scheme url).toList = (url.toList.takeWhile (· != ':')).map Char.toLower := by
  simp [scheme, Text.firstSegment, Text.toList_lower, bne]

theorem takeWhile_behindScheme (url : String) : (behindScheme url).takeWhile (· != ':') = [] := by
  rw [List.takeWhile_eq_nil_iff]
  exact List.dropWhile_get_zero_not (· != ':') url.toList

theorem dropWhile_behindScheme (url : String) :
    (behindScheme url).dropWhile (· != ':') = behindScheme url := by
  rw [List.dropWhile_eq_self_iff]
  exact List.dropWhile_get_zero_not (· != ':') url.toList

/-- A URL is changed in nothing but the case of its scheme if its scheme is replaced by one that is
    the same in small letters. -/
theorem sameButCase_of_lower {url : String} {letters : List Char} (hcolon : ':' ∉ letters)
    (hlower : letters.map Char.toLower = (scheme url).toList) :
    SameButCase url (String.ofList (letters ++ behindScheme url)) := by
  have hletters : ∀ c ∈ letters, (c != ':') = true := by
    intro c hc
    rw [bne_iff_ne]
    rintro rfl
    exact hcolon hc
  constructor
  · rw [← String.toList_inj, toList_scheme (String.ofList _), String.toList_ofList,
      List.takeWhile_append_of_pos hletters, takeWhile_behindScheme, List.append_nil, hlower]
  · show _ = (String.ofList _).toList.dropWhile _
    rw [String.toList_ofList, List.dropWhile_append_of_pos hletters, dropWhile_behindScheme]

/-- Letters that the scheme begins with, in small ones, can be written in any case there. -/
theorem SameButCase.exists_written {url : String} {letters : List Char} (hcolon : ':' ∉ letters)
    (hstart : letters.map Char.toLower <+: (scheme url).toList) :
    ∃ other, SameButCase url other ∧ letters <+: other.toList := by
  obtain ⟨others, hothers⟩ := hstart
  rw [toList_scheme, eq_comm, List.map_eq_append_iff] at hothers
  obtain ⟨written, behind, hscheme, hwritten, hbehind⟩ := hothers
  have hcolon' : ':' ∉ letters ++ behind := by
    intro hmem
    obtain hmem | hmem := List.mem_append.mp hmem
    · exact hcolon hmem
    · have htake : ':' ∈ url.toList.takeWhile (· != ':') :=
        hscheme ▸ List.mem_append_right written hmem
      exact absurd (List.mem_takeWhile_imp htake) (by decide)
  have hlower : (letters ++ behind).map Char.toLower = (scheme url).toList := by
    rw [toList_scheme, hscheme, List.map_append, List.map_append, hwritten]
  refine ⟨_, sameButCase_of_lower hcolon' hlower, ?_⟩
  rw [String.toList_ofList, List.append_assoc]
  exact List.prefix_append letters _

/-- What a URL begins with its scheme begins with, in small letters, up to the colon. -/
theorem prefix_scheme {url : String} {letters : List Char} (hcolon : ':' ∉ letters)
    (hstart : letters <+: url.toList) : letters.map Char.toLower <+: (scheme url).toList := by
  obtain ⟨behind, hbehind⟩ := hstart
  have hletters : ∀ c ∈ letters, (c != ':') = true := by
    intro c hc
    rw [bne_iff_ne]
    rintro rfl
    exact hcolon hc
  rw [toList_scheme, ← hbehind, List.takeWhile_append_of_pos hletters, List.map_append]
  exact List.prefix_append _ _

theorem SameButCase.ofUrl_eq {url other : String} (h : SameButCase url other) :
    ofUrl url = ofUrl other := by
  unfold ofUrl
  rw [h.1]

theorem SameButCase.compiler_eq {δ η : Type} {url other : String} (h : SameButCase url other)
    (db : Database δ η) :
    (Session.ofConnection (Link.connection db url)).compiler =
      (Session.ofConnection (Link.connection db other)).compiler := by
  have hname : Link.typeName url = Link.typeName other := by
    simp only [Link.typeName, h.ofUrl_eq]
  simp only [Session.ofConnection, Link.connection, hname]

/-! ## Markers -/

namespace Link

theorem markerStyle_eq_numbered_iff (url : String) :
    markerStyle url = .numbered ↔ postgres <+: url.toList := by
  have hdef : markerStyle url =
      if postgres.isPrefixOf url.toList then .numbered else .question := rfl
  rw [hdef, ← List.isPrefixOf_iff_prefix]
  by_cases h : postgres.isPrefixOf url.toList = true
  · simp [h]
  · simp [h]

theorem markerStyle_eq_iff (url other : String) :
    markerStyle url = markerStyle other ↔
      (postgres <+: url.toList ↔ postgres <+: other.toList) := by
  rw [← markerStyle_eq_numbered_iff, ← markerStyle_eq_numbered_iff]
  generalize markerStyle url = style
  generalize markerStyle other = style'
  cases style <;> cases style' <;> simp

end Link

/-- Two links have different markers just if the scheme begins with the letters of PostgreSQL, and
    in one of the URLs only in small letters. -/
theorem SameButCase.markerStyle_ne_iff {url other : String} (h : SameButCase url other) :
    Link.markerStyle url ≠ Link.markerStyle other ↔
      postgres <+: (scheme url).toList ∧
        ¬ (postgres <+: url.toList ↔ postgres <+: other.toList) := by
  have hcolon : ':' ∉ postgres := by decide
  rw [Ne, Link.markerStyle_eq_iff, iff_and_self]
  intro hne
  by_cases hurl : postgres <+: url.toList
  · exact prefix_scheme hcolon hurl
  · have hother : postgres <+: other.toList := by
      by_contra hother
      exact hne (iff_of_false hurl hother)
    rw [h.1]
    exact prefix_scheme hcolon hother

/-- The markers of a URL of PostgreSQL depend on the case of its scheme, since it can be written so
    that either style is used. -/
theorem SameButCase.exists_markerStyle {url : String} (h : postgres <+: (scheme url).toList)
    (style : MarkerStyle) : ∃ other, SameButCase url other ∧ Link.markerStyle other = style := by
  cases style with
  | numbered =>
    have hcolon : ':' ∉ postgres := by decide
    obtain ⟨other, hsame, hstart⟩ := exists_written hcolon h
    exact ⟨other, hsame, (Link.markerStyle_eq_numbered_iff other).mpr hstart⟩
  | question =>
    have hcolon : ':' ∉ "Postgres".toList := by decide
    obtain ⟨other, hsame, hstart⟩ := exists_written hcolon h
    refine ⟨other, hsame, ?_⟩
    have hsmall : ¬ postgres <+: other.toList := by
      intro hpostgres
      have hlength := List.prefix_of_prefix_length_le hstart hpostgres (by decide)
      exact absurd hlength (by decide)
    cases hstyle : Link.markerStyle other with
    | question => rfl
    | numbered => exact absurd ((Link.markerStyle_eq_numbered_iff other).mp hstyle) hsmall

/-! ## Statements -/

namespace Link

/-- The form in which a statement is sent to the database behind a URL. -/
def sent? (url : String) (s : Statement) : Option Positional :=
  s.positional? (markerStyle url)

/-- Links that send a statement in one form run it alike. -/
theorem connection_run_congr {δ η : Type} (db : Database δ η) {url other : String} {s : Statement}
    (h : sent? url s = sent? other s) :
    (connection db url).execute s = (connection db other).execute s ∧
      (connection db url).query s = (connection db other).query s := by
  unfold sent? at h
  constructor
  · show send url s db.execute = send other s db.execute
    unfold send
    rw [h]
  · show (do return (← send url s db.query).map Row.ofCells) = _
    unfold send
    rw [h]
    rfl

end Link

/-- A statement with one marker. -/
def deletion : Statement := ⟨"DELETE FROM T WHERE Id=@pId", [⟨"@pId", .int 3⟩]⟩

/-- **The case of schemes.** For every URL,

    - to each URL that differs from it at most in the case of its scheme, links have the same
      dialect, and sessions over them compile alike;
    - statements are sent there with the same values in the same order, or not at all, and run alike
      if they are sent in one form; this they are just if the links write markers in one style, or
      if there is no marker in the statement;
    - the styles differ just if the scheme begins with the letters of PostgreSQL, and in one of the
      URLs only in small letters;
    - so the case of the scheme never matters just if the scheme does not begin with these letters,
      in any case. -/
theorem forms_of_url {δ η : Type} (db : Database δ η) (url : String) :
    (∀ other, SameButCase url other →
      ofUrl url = ofUrl other ∧
      (Session.ofConnection (Link.connection db url)).compiler =
        (Session.ofConnection (Link.connection db other)).compiler ∧
      (∀ s : Statement,
        (Link.sent? url s).map Positional.values = (Link.sent? other s).map Positional.values ∧
        (Link.sent? url s = Link.sent? other s →
          (Link.connection db url).execute s = (Link.connection db other).execute s ∧
            (Link.connection db url).query s = (Link.connection db other).query s) ∧
        (Link.sent? url s = Link.sent? other s ↔
          Link.markerStyle url = Link.markerStyle other ∨
            ∀ p ∈ Link.sent? url s, p.values = [])) ∧
      (Link.markerStyle url ≠ Link.markerStyle other ↔
        postgres <+: (scheme url).toList ∧
          ¬ (postgres <+: url.toList ↔ postgres <+: other.toList))) ∧
    ((∀ other, SameButCase url other → ∀ s, Link.sent? url s = Link.sent? other s) ↔
      ¬ postgres <+: (scheme url).toList) := by
  constructor
  · intro other hsame
    refine ⟨hsame.ofUrl_eq, hsame.compiler_eq db, fun s => ?_, hsame.markerStyle_ne_iff⟩
    refine ⟨?_, Link.connection_run_congr db, ?_⟩
    · exact s.map_values_positional? _ _
    · exact s.positional?_eq_iff _ _
  · constructor
    · intro hall hpostgres
      -- the URL can be written with either style, and one statement tells them apart
      obtain ⟨numbered, hnumbered, hstyle⟩ := SameButCase.exists_markerStyle hpostgres .numbered
      obtain ⟨question, hquestion, hstyle'⟩ := SameButCase.exists_markerStyle hpostgres .question
      have hsent := (hall numbered hnumbered deletion).symm.trans (hall question hquestion deletion)
      rw [Link.sent?, Link.sent?, hstyle, hstyle'] at hsent
      exact absurd hsent (by decide)
    · intro hother other hsame s
      have hstyle : Link.markerStyle url = Link.markerStyle other := by
        by_contra hne
        exact hother (hsame.markerStyle_ne_iff.mp hne).1
      rw [Link.sent?, Link.sent?, hstyle]

/-- Two URLs of one database, of which one has a capital in its scheme, have different markers. -/
theorem scheme_capital_unnumbered :
    let url := "postgres://localhost/app"
    let other := "Postgres://localhost/app"
    SameButCase url other ∧
      Link.sent? url deletion = some ⟨"DELETE FROM T WHERE Id=$1", [.int 3]⟩ ∧
      Link.sent? other deletion = some ⟨"DELETE FROM T WHERE Id=?", [.int 3]⟩ := by
  refine ⟨?_, ?_, ?_⟩ <;> decide +kernel

end RecordSql
