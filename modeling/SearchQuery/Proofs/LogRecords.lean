import SearchQuery.Proofs.LooseOperators
import SearchQuery.Proofs.NeutralForms
import SearchQuery.Proofs.OneLine
import SearchQuery.Proofs.Writing
import SearchQuery.Query.Command

/-!
# Records of commands

Whatever the text of a query, each record that a command writes is on one line. Where a text is
shown as a whole it is quoted; where terms and phrases are shown as they are they have no line
breaks, because every line break is a blank. So the report of a query falls into the lines it was
joined from, and the records of the report are those lines.
-/

namespace SearchQuery

open Grammar Log

theorem not_isLineBreak_of_isPlain {c : Char} (h : IsPlain c) : Text.isLineBreak c = false := by
  cases hbreak : Text.isLineBreak c with
  | false => rfl
  | true =>
    have hblank := Text.isBlank_of_isLineBreak hbreak
    rw [h.1] at hblank
    cases hblank

theorem oneLine_of_isWord {w : Text} (h : IsWord w) : w.OneLine :=
  fun c hc => not_isLineBreak_of_isPlain (h.2 c hc)

theorem Body.oneLine_line {b : Body} (h : b.WellFormed) : b.line.OneLine := by
  unfold line
  cases b with
  | term t =>
    have hterm : IsTerm t := h
    dsimp only
    rw [Text.oneLine_append]
    exact ⟨by decide, oneLine_of_isWord hterm.1⟩
  | phrase p =>
    obtain ⟨words, hwords, rfl⟩ := h
    dsimp only
    rw [Text.oneLine_append, Text.oneLine_append]
    refine ⟨⟨by decide, ?_⟩, by decide⟩
    exact Text.oneLine_joinWith (by decide) fun w hw => oneLine_of_isWord (hwords w hw)

theorem Query.isEmpty_grouped_eq (cs : List Clause) : (grouped cs).isEmpty = cs.isEmpty := by
  rw [Bool.eq_iff_iff, isEmpty_grouped, List.isEmpty_iff]

/-- Lines that are ended one by one are joined and ended together. -/
theorem Text.unlines_eq_joinWith {lines : List Text} (h : lines ≠ []) :
    unlines lines = joinWith ['\n'] lines ++ ['\n'] := by
  induction lines with
  | nil => exact absurd rfl h
  | cons line lines ih =>
    rw [unlines_cons]
    cases lines with
    | nil =>
      rw [joinWith_singleton]
      rfl
    | cons next lines =>
      rw [ih (by simp), joinWith_cons_cons, List.append_assoc, List.append_assoc]
      rfl

namespace Report

theorem oneLine_heading (role : Role) (count : Nat) : (heading role count).OneLine := by
  have hname : role.name.OneLine := by cases role <;> decide
  rw [heading, Text.oneLine_append, Text.oneLine_append, Text.oneLine_append]
  exact ⟨⟨⟨hname, by decide⟩, Text.oneLine_ofNat count⟩, by decide⟩

theorem oneLine_numbered {b : Body} (h : b.WellFormed) (number : Nat) :
    (numbered number b).OneLine := by
  rw [numbered, Text.oneLine_append, Text.oneLine_append, Text.oneLine_append]
  exact ⟨⟨⟨by decide, Text.oneLine_ofNat number⟩, by decide⟩, Body.oneLine_line h⟩

/-- The lines of clauses of one role: a heading with their number and one numbered line for each. -/
def linesOfRole (role : Role) (cs : List Clause) : List Text :=
  if cs.isEmpty then []
  else heading role cs.length :: (cs.zipIdx 1).map fun (c, number) => numbered number c.body

/-- The lines of clauses: those of each role, or one line if there are no clauses. -/
def linesOf (cs : List Clause) : List Text :=
  if cs.isEmpty then ["(empty query)"]
  else Role.all.flatMap fun role => linesOfRole role (cs.filter fun c => c.role = role)

theorem itemLines_clauses (number : Nat) (cs : List Clause) :
    itemLines number (cs.map Item.clause) =
      .ok ((cs.zipIdx number).map fun (c, n) => numbered n c.body) := by
  induction cs generalizing number with
  | nil => rfl
  | cons c cs ih =>
    rw [List.map_cons, itemLines, ih]
    rfl

theorem sectionLines_grouped (cs : List Clause) (role : Role) :
    sectionLines (Query.grouped cs) role =
      .ok (linesOfRole role (cs.filter fun c => c.role = role)) := by
  rw [sectionLines, Query.bucket_grouped, linesOfRole, List.isEmpty_map, itemLines_clauses,
    List.length_map]
  split <;> rfl

theorem lines_grouped (cs : List Clause) : lines (Query.grouped cs) = .ok (linesOf cs) := by
  have hsections : Role.all.mapM (sectionLines (Query.grouped cs)) =
      .ok (Role.all.map fun role => linesOfRole role (cs.filter fun c => c.role = role)) := by
    rw [funext (sectionLines_grouped cs)]
    exact List.mapM_pure
  rw [lines, linesOf, hsections, Query.isEmpty_grouped_eq, List.flatMap_def]
  split <;> rfl

theorem oneLine_linesOfRole {cs : List Clause} (h : ∀ c ∈ cs, c.WellFormed) (role : Role) :
    ∀ line ∈ linesOfRole role cs, line.OneLine := by
  intro line hline
  rw [linesOfRole] at hline
  split at hline
  · cases hline
  · rcases List.mem_cons.1 hline with rfl | hline
    · exact oneLine_heading role _
    · obtain ⟨⟨c, number⟩, hc, rfl⟩ := List.mem_map.1 hline
      have hmem : c ∈ cs := List.fst_mem_of_mem_zipIdx hc
      exact oneLine_numbered (h c hmem) number

theorem oneLine_linesOf {cs : List Clause} (h : ∀ c ∈ cs, c.WellFormed) :
    ∀ line ∈ linesOf cs, line.OneLine := by
  intro line hline
  rw [linesOf] at hline
  split at hline
  · obtain rfl := List.mem_singleton.1 hline
    decide
  · obtain ⟨role, -, hline⟩ := List.mem_flatMap.1 hline
    exact oneLine_linesOfRole (fun c hc => h c (List.mem_of_mem_filter hc)) role line hline

theorem length_linesOfRole (role : Role) (cs : List Clause) :
    (linesOfRole role cs).length = if cs.isEmpty then 0 else cs.length + 1 := by
  rw [linesOfRole]
  split <;> simp

theorem length_flatMap_linesOfRole (cs : List Clause) (roles : List Role) :
    (roles.flatMap fun role => linesOfRole role (cs.filter fun c => c.role = role)).length =
      (roles.filter fun role => !((Query.grouped cs).bucket role).isEmpty).length +
        (roles.flatMap (Query.grouped cs).bucket).length := by
  induction roles with
  | nil => rfl
  | cons role roles ih =>
    rw [List.flatMap_cons, List.flatMap_cons, List.length_append, List.length_append, ih,
      length_linesOfRole, List.filter_cons, Query.bucket_grouped, List.isEmpty_map,
      List.length_map]
    cases cs.filter fun c => c.role = role with
    | nil => simp
    | cons c rest =>
      simp only [List.isEmpty_cons, Bool.not_false, if_true, Bool.false_eq_true, if_false,
        List.length_cons]
      omega

/-- One heading for each role that has clauses, and one line for each clause. -/
theorem length_linesOf (cs : List Clause) :
    (linesOf cs).length =
      if (Query.grouped cs).isEmpty then 1
      else (Role.all.filter fun role => !((Query.grouped cs).bucket role).isEmpty).length +
        (Query.grouped cs).size := by
  rw [linesOf, Query.isEmpty_grouped_eq, ← Query.length_items, Query.items,
    ← length_flatMap_linesOfRole]
  split <;> rfl

theorem linesOf_ne_nil (cs : List Clause) : linesOf cs ≠ [] := by
  intro h
  have hlength := length_linesOf cs
  rw [h, List.length_nil] at hlength
  split at hlength
  case isTrue => omega
  case isFalse hne =>
    have hsize : (Query.grouped cs).size = 0 := by omega
    rw [← Query.length_items, List.length_eq_zero_iff, ← Query.isEmpty_iff_items] at hsize
    exact hne hsize

/-- The report of clauses is made of their lines. -/
theorem report_grouped (cs : List Clause) :
    (Query.grouped cs).report = .ok (Text.unlines (linesOf cs)) := by
  rw [Query.report, lines_grouped]
  rfl

end Report

theorem Log.Logged.bind_ok {ε α β : Type} (records : List Record) (a : α) (f : α → Logged ε β) :
    (⟨records, .ok a⟩ : Logged ε α) >>= f = ⟨records ++ (f a).records, (f a).result⟩ := rfl

namespace Command

open Logged

theorem read_of_clauses {text : Text} {cs : List Clause} (h : clauses text = .ok cs) :
    read text =
      ⟨[⟨Level.debug, countMessage cs (Query.grouped cs)⟩], .ok (Query.grouped cs)⟩ := by
  obtain ⟨ss, hss, rfl⟩ := clauses_eq_ok.1 h
  rw [read, parse_of_segments (segments_of_spells hss)]
  dsimp only
  rw [transform_treeOf]
  change (do
    let query ← ofExcept (Query.ofClauses (Part.list _).clauses)
    emit Level.debug (countMessage (Part.list _).clauses query)
    return query) = _
  rw [Part.clauses_list_map, Query.ofClauses_eq]
  rfl

theorem read_of_rejected {text : Text} {r : Rejection} (h : Grammar.parse text = .error r) :
    read text = ⟨[⟨Level.debug, rejectionMessage text r⟩], .error (.rejected r)⟩ := by
  rw [read, h]
  rfl

def summaryMessage (text : Text) (q : Query) : Text :=
  "Parsed " ++ Text.ofNat q.size ++ " clauses from " ++ text.quoted

theorem parse_of_read {text : Text} {q : Query} {records : List Record} {lines : List Text}
    (hread : read text = ⟨records, .ok q⟩) (hreport : q.report = .ok (Text.unlines lines))
    (hlines : ∀ line ∈ lines, line.OneLine) :
    parse text =
      ⟨records ++ ⟨Level.info, summaryMessage text q⟩ :: lines.map fun line => ⟨Level.info, line⟩,
        .ok q⟩ := by
  rw [parse, hread, bind_ok, hreport, emit, emitAll, bind_ok, Logged.ofExcept, bind_ok,
    Text.lines_unlines lines hlines, emitAll, bind_ok]
  change Logged.mk (records ++ ⟨Level.info, summaryMessage text q⟩ ::
    ((lines.map fun line => ⟨Level.info, line⟩) ++ [])) (.ok q) = _
  rw [List.append_nil]

theorem parse_of_failed {text : Text} {records : List Record} {e : QueryError}
    (hread : read text = ⟨records, .error e⟩) : parse text = ⟨records, .error e⟩ := by
  rw [parse, hread]
  rfl

def compiledMessage (q : Query) (backend : Backend) : Text :=
  "Compiled " ++ Text.ofNat q.size ++ " clauses with backend=" ++ backend.name

theorem compile_of_read {text : Text} {q : Query} {records : List Record} {backend : Backend}
    {body : Value} (hread : read text = ⟨records, .ok q⟩) (hbody : backend.compile q = .ok body) :
    compile text backend =
      ⟨records ++ [⟨Level.debug, compiledMessage q backend⟩], .ok body⟩ := by
  rw [compile, hread, bind_ok, hbody, Logged.ofExcept, bind_ok, emit, emitAll, bind_ok]
  rfl

theorem compile_of_failed {text : Text} {records : List Record} {e : QueryError}
    (hread : read text = ⟨records, .error e⟩) (backend : Backend) :
    compile text backend = ⟨records, .error e⟩ := by
  rw [compile, hread]
  rfl

theorem oneLine_countMessage (cs : List Clause) (q : Query) : (countMessage cs q).OneLine := by
  unfold countMessage
  simp only [Text.oneLine_append, Text.oneLine_ofNat, and_true]
  decide

theorem oneLine_summaryMessage (text : Text) (q : Query) : (summaryMessage text q).OneLine := by
  unfold summaryMessage
  simp only [Text.oneLine_append, Text.oneLine_ofNat, Text.oneLine_quoted, and_true]
  decide

theorem oneLine_compiledMessage (q : Query) (backend : Backend) :
    (compiledMessage q backend).OneLine := by
  have hname : backend.name.OneLine := by
    rw [Backend.name]
    cases backend.kind <;> decide
  unfold compiledMessage
  simp only [Text.oneLine_append, Text.oneLine_ofNat, hname, and_true]
  decide

theorem oneLine_description_of_rejected {text : Text} {r : Rejection}
    (h : Grammar.parse text = .error r) : r.reason.description.OneLine := by
  apply Reason.oneLine_description
  rintro d hd
  rcases parse_eq_error_iff.1 h with ⟨-, i, -, rfl⟩ | ⟨-, i, s, -, -, rfl⟩
  · cases hd
  · cases hd

theorem oneLine_rejectionMessage (text : Text) {r : Rejection}
    (h : r.reason.description.OneLine) : (rejectionMessage text r).OneLine := by
  unfold rejectionMessage
  simp only [Text.oneLine_append, Text.oneLine_quoted, h, and_true]
  decide

theorem oneLine_read (text : Text) : ∀ record ∈ (read text).records, record.message.OneLine := by
  intro record hrecord
  cases h : Grammar.parse text with
  | error r =>
    rw [read_of_rejected h] at hrecord
    obtain rfl := List.mem_singleton.1 hrecord
    exact oneLine_rejectionMessage text (oneLine_description_of_rejected h)
  | ok tree =>
    obtain ⟨cs, hcs⟩ := exists_clauses h
    rw [read_of_clauses hcs] at hrecord
    obtain rfl := List.mem_singleton.1 hrecord
    exact oneLine_countMessage _ _

theorem oneLine_parse (text : Text) : ∀ record ∈ (parse text).records, record.message.OneLine := by
  have hread := oneLine_read text
  cases h : Grammar.parse text with
  | error r =>
    rw [read_of_rejected h] at hread
    rw [parse_of_failed (read_of_rejected h)]
    exact hread
  | ok tree =>
    obtain ⟨cs, hcs⟩ := exists_clauses h
    have hlines := Report.oneLine_linesOf (wellFormed_of_clauses hcs)
    rw [read_of_clauses hcs] at hread
    rw [parse_of_read (read_of_clauses hcs) (Report.report_grouped cs) hlines]
    intro record hrecord
    rcases List.mem_append.1 hrecord with hrecord | hrecord
    · exact hread record hrecord
    · rcases List.mem_cons.1 hrecord with rfl | hrecord
      · exact oneLine_summaryMessage _ _
      · obtain ⟨line, hline, rfl⟩ := List.mem_map.1 hrecord
        exact hlines line hline

theorem oneLine_compile (text : Text) (backend : Backend) :
    ∀ record ∈ (compile text backend).records, record.message.OneLine := by
  have hread := oneLine_read text
  cases h : Grammar.parse text with
  | error r =>
    rw [read_of_rejected h] at hread
    rw [compile_of_failed (read_of_rejected h)]
    exact hread
  | ok tree =>
    obtain ⟨cs, hcs⟩ := exists_clauses h
    obtain ⟨body, hbody⟩ := Query.exists_compile_grouped cs backend
    rw [read_of_clauses hcs] at hread
    rw [compile_of_read (read_of_clauses hcs) hbody]
    intro record hrecord
    rcases List.mem_append.1 hrecord with hrecord | hrecord
    · exact hread record hrecord
    · obtain rfl := List.mem_singleton.1 hrecord
      exact oneLine_compiledMessage _ _

/-- No text splits a record or adds one: every record is on one line, as is the message of a
rejection, and the records behind the summary are the lines of the report. -/
theorem records_on_one_line (text : Text) :
    (∀ record ∈ (parse text).records, record.message.OneLine) ∧
    (∀ backend, ∀ record ∈ (compile text backend).records, record.message.OneLine) ∧
    (∀ r, Grammar.parse text = .error r →
      (parse text).result = .error (.rejected r) ∧
      (∀ backend, (compile text backend).result = .error (.rejected r)) ∧
      (QueryError.rejected r).message.OneLine) ∧
    (Accepted text → ∃ cs, clauses text = .ok cs ∧
      (parse text).result = .ok (Query.grouped cs) ∧
      (parse text).records =
        ⟨Level.debug, countMessage cs (Query.grouped cs)⟩ ::
        ⟨Level.info, summaryMessage text (Query.grouped cs)⟩ ::
        (Report.linesOf cs).map (fun line => ⟨Level.info, line⟩) ∧
      (Query.grouped cs).report =
        .ok (Text.joinWith ['\n'] (Report.linesOf cs) ++ ['\n']) ∧
      (Report.linesOf cs).length =
        if (Query.grouped cs).isEmpty then 1
        else (Role.all.filter fun role => !((Query.grouped cs).bucket role).isEmpty).length +
          (Query.grouped cs).size) := by
  refine ⟨oneLine_parse text, oneLine_compile text, ?_, ?_⟩
  · intro r h
    have hread := read_of_rejected h
    refine ⟨?_, ?_, Rejection.oneLine_message (oneLine_description_of_rejected h)⟩
    · rw [parse_of_failed hread]
    · intro backend
      rw [compile_of_failed hread]
  · intro h
    obtain ⟨cs, hcs⟩ := accepted_iff_clauses.1 h
    have hlines := Report.oneLine_linesOf (wellFormed_of_clauses hcs)
    have hparse := parse_of_read (read_of_clauses hcs) (Report.report_grouped cs) hlines
    refine ⟨cs, hcs, ?_, ?_, ?_, Report.length_linesOf cs⟩
    · rw [hparse]
    · rw [hparse]
      rfl
    · rw [Report.report_grouped, Text.unlines_eq_joinWith (Report.linesOf_ne_nil cs)]

/-- A line separator between two words of a phrase. -/
def separatedText : Text := "\"a\u2028b\" -c"

def brokenText : Text := "a +\n(empty query)"

theorem records_on_one_line_separated :
    (Accepted separatedText ∧ ∃ cs, clauses separatedText = .ok cs ∧
      (parse separatedText).records =
        ⟨Level.debug, countMessage cs (Query.grouped cs)⟩ ::
        ⟨Level.info, summaryMessage separatedText (Query.grouped cs)⟩ ::
        (Report.linesOf cs).map (fun line => ⟨Level.info, line⟩)) ∧
    ∃ r, Grammar.parse brokenText = .error r ∧ (QueryError.rejected r).message.OneLine := by
  have haccepted : Accepted separatedText := ⟨_, rfl⟩
  obtain ⟨r, hr⟩ : ∃ r, Grammar.parse brokenText = .error r := ⟨_, rfl⟩
  obtain ⟨cs, hcs, -, hrecords, -⟩ := (records_on_one_line separatedText).2.2.2 haccepted
  have hmessage := ((records_on_one_line brokenText).2.2.1 r hr).2.2
  exact ⟨⟨haccepted, cs, hcs, hrecords⟩, r, hr, hmessage⟩

end Command
end SearchQuery
