import Mathlib.Data.List.Basic
import SearchQuery.Proofs.Decoding
import SearchQuery.Proofs.LogRecords

/-!
# Reading reports

A report is read line by line. A heading says how many numbered lines follow it, so that nothing in
a term or a phrase is taken for a heading or for another line; only a line break could be. Since the
clauses of a text have none, the query of a text is read back from its report, and texts have the
same report only if they have the same query.
-/

namespace SearchQuery

open Grammar

/-! ## A reader -/

/-- What a line looks for, read behind its number. -/
def Body.ofLine? (line : Text) : Option Body :=
  match "term   ".toList.isPrefixOf? line with
  | some t => some (.term t)
  | none => do
    let rest ← "phrase \"".toList.isPrefixOf? line
    let p ← "\"".toList.isSuffixOf? rest
    return .phrase p

namespace Report

def headingCount? (role : Role) (line : Text) : Option Nat := do
  let rest ← (role.name ++ " (").isPrefixOf? line
  let digits ← "):".toList.isSuffixOf? rest
  let count := Nat.ofDigitChars 10 digits 0
  if Text.ofNat count = digits then some count else none

def numberedBody? (number : Nat) (line : Text) : Option Body := do
  let rest ← ("  " ++ Text.ofNat number ++ ". ").isPrefixOf? line
  Body.ofLine? rest

/-- Reads as many lines as are asked for, numbered from a number on. -/
def readItems : Nat → Nat → List Text → Option (List Body × List Text)
  | _, 0, lines => some ([], lines)
  | _, _ + 1, [] => none
  | number, count + 1, line :: lines => do
    let body ← numberedBody? number line
    let (bodies, rest) ← readItems (number + 1) count lines
    return (body :: bodies, rest)

/-- Reads what stands under the heading of a role, if the lines start with one. -/
def readSection (role : Role) : List Text → Option (List Body × List Text)
  | [] => some ([], [])
  | line :: lines =>
    match headingCount? role line with
    | some count => readItems 1 count lines
    | none => some ([], line :: lines)

/-- Reads the sections of roles, with nothing behind them. -/
def readClauses : List Role → List Text → Option (List Clause)
  | [], lines => if lines.isEmpty then some [] else none
  | role :: roles, lines => do
    let (bodies, rest) ← readSection role lines
    let cs ← readClauses roles rest
    return bodies.map (fun body => ⟨role, body⟩) ++ cs

def ofLines? (lines : List Text) : Option Query :=
  if lines = [emptyLine] then some .empty else (readClauses Role.all lines).map Query.grouped

def read? (report : Text) : Option Query := ofLines? (Text.lines report)

end Report

theorem isPrefixOf?_append (s t : Text) : s.isPrefixOf? (s ++ t) = some t :=
  List.isPrefixOf?_eq_some_iff_append_eq.2 rfl

theorem isSuffixOf?_append (s t : Text) : s.isSuffixOf? (t ++ s) = some t :=
  List.isSuffixOf?_eq_some_iff_append_eq.2 rfl

theorem Body.ofLine?_line (b : Body) : ofLine? b.line = some b := by
  unfold ofLine? line
  cases b with
  | term t =>
    dsimp only
    rw [isPrefixOf?_append]
  | phrase p =>
    have hterm : "term   ".toList.isPrefixOf? ("phrase \"" ++ p ++ "\"") = none := rfl
    dsimp only
    rw [hterm, List.append_assoc, isPrefixOf?_append]
    dsimp only [Option.bind_eq_bind, Option.bind_some]
    rw [isSuffixOf?_append]
    rfl

namespace Report

theorem numberedBody?_numbered (number : Nat) (b : Body) :
    numberedBody? number (numbered number b) = some b := by
  rw [numberedBody?, numbered, isPrefixOf?_append, Option.bind_eq_bind, Option.bind_some,
    Body.ofLine?_line]

theorem headingCount?_heading (role : Role) (count : Nat) :
    headingCount? role (heading role count) = some count := by
  have hvalue : Nat.ofDigitChars 10 (Text.ofNat count) 0 = count :=
    Nat.ofDigitChars_toDigits (by decide) (by decide)
  rw [headingCount?, heading, List.append_assoc, isPrefixOf?_append, Option.bind_eq_bind,
    Option.bind_some, isSuffixOf?_append, Option.bind_some]
  dsimp only
  rw [hvalue, if_pos rfl]

/-- Headings of different roles start with different characters. -/
theorem headingCount?_heading_of_ne {role other : Role} (h : role ≠ other) (count : Nat) :
    headingCount? role (heading other count) = none := by
  cases role <;> cases other <;> first | exact absurd rfl h | rfl

theorem readItems_append (number : Nat) (cs : List Clause) (rest : List Text) :
    readItems number cs.length
        ((cs.zipIdx number).map (fun (c, n) => numbered n c.body) ++ rest) =
      some (cs.map Clause.body, rest) := by
  induction cs generalizing number with
  | nil => rfl
  | cons c cs ih =>
    rw [List.zipIdx_cons, List.map_cons, List.cons_append, List.length_cons, readItems,
      numberedBody?_numbered, ih]
    rfl

/-- The section of a role is read, whatever follows but another heading of the role. -/
theorem readSection_append (role : Role) (cs : List Clause) {rest : List Text}
    (h : ∀ line, rest.head? = some line → headingCount? role line = none) :
    readSection role (linesOfRole role cs ++ rest) = some (cs.map Clause.body, rest) := by
  cases cs with
  | nil =>
    cases rest with
    | nil => rfl
    | cons line rest =>
      have hline := h line rfl
      rw [linesOfRole, List.isEmpty_nil, if_pos rfl, List.nil_append, readSection, hline]
      rfl
  | cons c cs =>
    rw [linesOfRole, List.isEmpty_cons, if_neg (by simp), List.cons_append, readSection,
      headingCount?_heading]
    exact readItems_append 1 (c :: cs) rest

theorem exists_heading {cs : Role → List Clause} {roles : List Role} {line : Text}
    (h : (roles.flatMap fun role => linesOfRole role (cs role)).head? = some line) :
    ∃ role ∈ roles, ∃ count, line = heading role count := by
  induction roles with
  | nil => cases h
  | cons role roles ih =>
    rw [List.flatMap_cons, linesOfRole] at h
    split at h
    · obtain ⟨r, hr, hline⟩ := ih h
      exact ⟨r, List.mem_cons_of_mem _ hr, hline⟩
    · exact ⟨role, by simp, _, (Option.some.inj h).symm⟩

/-- The sections of different roles are read as the clauses they show. -/
theorem readClauses_sections (cs : Role → List Clause) {roles : List Role} (hroles : roles.Nodup)
    (hcs : ∀ role, ∀ c ∈ cs role, c.role = role) :
    readClauses roles (roles.flatMap fun role => linesOfRole role (cs role)) =
      some (roles.flatMap cs) := by
  induction roles with
  | nil => rfl
  | cons role roles ih =>
    obtain ⟨hnew, hroles⟩ := List.nodup_cons.1 hroles
    have hrest : ∀ line, (roles.flatMap fun role => linesOfRole role (cs role)).head? = some line →
        headingCount? role line = none := by
      intro line hline
      obtain ⟨other, hother, count, rfl⟩ := exists_heading hline
      exact headingCount?_heading_of_ne (ne_of_mem_of_not_mem hother hnew).symm count
    have hclauses : ((cs role).map Clause.body).map (fun body => ⟨role, body⟩) = cs role := by
      rw [List.map_map]
      refine (List.map_congr_left fun c hc => ?_).trans (List.map_id _)
      exact hcs role c hc ▸ rfl
    rw [List.flatMap_cons, List.flatMap_cons, readClauses, readSection_append role _ hrest,
      Option.bind_eq_bind, Option.bind_some]
    dsimp only
    rw [ih hroles, hclauses]
    rfl

theorem readClauses_linesOf {cs : List Clause} (h : cs ≠ []) :
    readClauses Role.all (linesOf cs) = some (Query.byRole cs) := by
  rw [linesOf, if_neg (by simpa using h)]
  exact readClauses_sections (fun role => cs.filter fun c => c.role = role) (by decide)
    fun role c hc => of_decide_eq_true (List.mem_filter.1 hc).2

theorem ofLines?_linesOf (cs : List Clause) : ofLines? (linesOf cs) = some (Query.grouped cs) := by
  by_cases h : cs = []
  · rw [h]
    rfl
  · have hread := readClauses_linesOf h
    have hne : linesOf cs ≠ [emptyLine] := by
      intro hlines
      rw [hlines] at hread
      cases hread
    rw [ofLines?, if_neg hne, hread, Option.map_some, Query.grouped_byRole]

/-! ## Reports of texts -/

theorem lines_unlines_linesOf {cs : List Clause} (h : ∀ c ∈ cs, c.WellFormed) :
    Text.lines (Text.unlines (linesOf cs)) = linesOf cs :=
  Text.lines_unlines _ (oneLine_linesOf h)

theorem read?_report {text : Text} {q : Query} (h : Query.parse text = .ok q) :
    ∃ report, q.report = .ok report ∧ read? report = some q := by
  obtain ⟨cs, hcs, rfl⟩ := Query.exists_grouped_of_parse h
  refine ⟨_, report_grouped cs, ?_⟩
  rw [read?, lines_unlines_linesOf (wellFormed_of_clauses hcs), ofLines?_linesOf]

/-- The lines show every bucket that has clauses, in turn, and nothing else: its heading with their
number, and its clauses numbered from one on. -/
def ShowsBuckets (q : Query) (lines : List Text) : Prop :=
  ∃ cs : Role → List Clause, (∀ role, q.bucket role = (cs role).map .clause) ∧
    lines = Role.all.flatMap fun role => linesOfRole role (cs role)

theorem report_eq_iff {t u : Text} {p q : Query} (hp : Query.parse t = .ok p)
    (hq : Query.parse u = .ok q) : p.report = q.report ↔ p = q := by
  constructor
  · intro h
    obtain ⟨report, hreport, hread⟩ := read?_report hp
    obtain ⟨report', hreport', hread'⟩ := read?_report hq
    obtain rfl : report = report' := Except.ok.inj (hreport.symm.trans (h.trans hreport'))
    exact Option.some.inj (hread.symm.trans hread')
  · rintro rfl
    rfl

/-- Texts have the same report exactly if they have the same query. A query is read back from its
report, which shows the buckets that have clauses, or is one line if none has. -/
theorem report_reads_back :
    (∀ t u p q, Query.parse t = .ok p → Query.parse u = .ok q →
      (p.report = q.report ↔ p.equals q = true) ∧ (p.report = q.report ↔ p = q)) ∧
    ∀ t q, Query.parse t = .ok q → ∃ report, q.report = .ok report ∧ read? report = some q ∧
      (q.isEmpty = false → ShowsBuckets q (Text.lines report)) ∧
      (q.isEmpty = true → Text.lines report = [emptyLine]) := by
  refine ⟨?_, ?_⟩
  · intro t u p q hp hq
    refine ⟨?_, report_eq_iff hp hq⟩
    rw [report_eq_iff hp hq]
    obtain ⟨cs, -, rfl⟩ := Query.exists_grouped_of_parse hp
    obtain ⟨ds, -, rfl⟩ := Query.exists_grouped_of_parse hq
    exact Query.equals_grouped_iff.symm
  · intro t q h
    obtain ⟨report, hreport, hread⟩ := read?_report h
    obtain ⟨cs, hcs, rfl⟩ := Query.exists_grouped_of_parse h
    obtain rfl : Text.unlines (linesOf cs) = report :=
      Except.ok.inj ((report_grouped cs).symm.trans hreport)
    refine ⟨_, hreport, hread, ?_⟩
    rw [lines_unlines_linesOf (wellFormed_of_clauses hcs), Query.isEmpty_grouped_eq]
    refine ⟨fun hne => ?_, fun hempty => ?_⟩
    · refine ⟨fun role => cs.filter fun c => c.role = role, Query.bucket_grouped cs, ?_⟩
      rw [linesOf, if_neg (by simp [hne])]
    · rw [linesOf, if_pos hempty]
      rfl

/-- A phrase that looks like a heading, and one that looks like the line of a term. -/
def imitatingClauses : List Clause :=
  [⟨.optional, .phrase "required (1):"⟩, ⟨.excluded, .term "phrase"⟩,
    ⟨.optional, .phrase "1. term x"⟩]

def imitatingLines : List Text :=
  ["optional (2):", "  1. phrase \"required (1):\"", "  2. phrase \"1. term x\"",
    "excluded (1):", "  1. term   phrase"]

theorem wellFormed_imitatingClauses : ∀ c ∈ imitatingClauses, c.WellFormed := by
  have hheading : Body.WellFormed (.phrase "required (1):") :=
    ⟨["required", "(1):"], by decide, rfl⟩
  have hterm : IsTerm "phrase" := by decide
  have hline : Body.WellFormed (.phrase "1. term x") :=
    ⟨["1.", "term", "x"], by decide, rfl⟩
  intro c hc
  simp only [imitatingClauses, List.mem_cons, List.not_mem_nil, or_false] at hc
  rcases hc with rfl | rfl | rfl
  · exact hheading
  · exact hterm
  · exact hline

theorem report_reads_back_imitating :
    (∃ q, Query.parse (written imitatingClauses) = .ok q ∧
      q.report = .ok (Text.unlines imitatingLines) ∧
      read? (Text.unlines imitatingLines) = some q ∧ ShowsBuckets q imitatingLines) ∧
    ∃ p q, Query.parse (written imitatingClauses) = .ok p ∧
      Query.parse (written (imitatingClauses.take 2)) = .ok q ∧ p.report ≠ q.report := by
  have hwf := wellFormed_imitatingClauses
  have hparse := Query.parse_written hwf
  constructor
  · have hlines : linesOf imitatingClauses = imitatingLines := by decide +kernel
    obtain ⟨report, hreport, hread, hshows, -⟩ := report_reads_back.2 _ _ hparse
    obtain rfl : Text.unlines (linesOf imitatingClauses) = report :=
      Except.ok.inj ((report_grouped imitatingClauses).symm.trans hreport)
    have hshows := hshows rfl
    rw [lines_unlines_linesOf hwf, hlines] at hshows
    rw [hlines] at hread hreport
    exact ⟨_, hparse, hreport, hread, hshows⟩
  · have hfewer : Query.parse (written (imitatingClauses.take 2)) = _ :=
      Query.parse_written fun c hc => hwf c (List.mem_of_mem_take hc)
    refine ⟨_, _, hparse, hfewer, fun h => ?_⟩
    have hsame := ((report_reads_back.1 _ _ _ _ hparse hfewer).2).1 h
    cases congrArg Query.optional hsame

/-- A text without clauses is shown by a line that is part of no bucket. -/
theorem report_of_blank :
    ∃ q report, Query.parse " " = .ok q ∧ q.report = .ok report ∧
      Text.lines report = [emptyLine] ∧ ¬ ShowsBuckets q (Text.lines report) := by
  have hclauses : clauses " " = .ok [] := clauses_of_spells (.gap (by decide))
  have hlines : Text.lines (Text.unlines (linesOf [])) = [emptyLine] :=
    lines_unlines_linesOf (by simp)
  refine ⟨_, _, query_parse_of_clauses hclauses, report_grouped [], hlines, ?_⟩
  rintro ⟨cs, hcs, hshown⟩
  have hnone : ∀ role, cs role = [] := by
    intro role
    have hbucket := hcs role
    rw [Query.bucket_grouped] at hbucket
    simpa using hbucket.symm
  rw [hlines, List.flatMap_eq_nil_iff.2 fun role _ => by rw [hnone role]; rfl] at hshown
  cases hshown

end Report
end SearchQuery
