import Mathlib.Data.List.Basic
import Vigil.Library.Basic
import Vigil.Proofs.ProcessRecord.Attributes
import Vigil.Proofs.Query.Reading
import Vigil.Proofs.Query.Tests
import Vigil.Proofs.Query.Trees

/-! # What counts as the start of a service

The analytic of service starts, from its text to its answers.

* `exists_document`: the text is a document with metadata and the query `startQuery`;
* `tokens_startQuery`: the tokens of the query are derived by the grammar, from the leaves
  `startDerivation` consists of;
* `exists_analytic`, `exists_parts_of_mem_tests`: the condition that they make, and its tests;
* `detectsServiceStart_iff`: the records of processes that the analytic detects. -/

namespace Vigil.Library

open Vigil.Query Vigil.Text

/-! ### From the text to the query -/

/-- The query of the analytic. -/
def startQuery : String := r#"process where subtype.create and (
    (process_name : "sc.exe" and command_line : "* start *") or
    (process_name : "net.exe" and match~(command_line, ".*\\sstart\\s+.+")) or
    (process_name : "powershell.exe" and command_line == "*Start-Service*") or
    (process_name : "wmic.exe" and command_line : "*service*call*startservice*")
)
"#

/-- Whether a document consists of metadata and a query. -/
def isRuleOf (query : String) : Yaml → Bool
  | .mapping _ [(.scalar _ _ "metadata", metadata), (.scalar _ _ "query", .scalar _ _ s)] =>
    (Metadata.read ["metadata"] metadata).isOk && s == query
  | _ => false

set_option maxRecDepth 100000 in
theorem exists_document : ∃ cs, serviceControlStartText = String.ofList cs ∧
    (Yaml.document? cs).any (isRuleOf startQuery) = true := by
  unfold serviceControlStartText
  with_reducible refine ⟨_, rfl, ?_⟩
  decide +kernel

/-- A document of metadata and a query is read as an analytic with the query. -/
theorem read_of_isRuleOf {y : Yaml} {query : String} {q : Query} (hy : isRuleOf query y = true)
    (hq : Query.read? query = .ok q) : ∃ a, Analytic.read [] y = .ok a ∧ a.query = q := by
  unfold isRuleOf at hy
  split at hy
  case h_1 tag ks kt metadata qs qt vs vt s =>
    obtain ⟨hmetadata, hs⟩ := Bool.and_eq_true_iff.mp hy
    obtain rfl := eq_of_beq hs
    rcases hm : Metadata.read ["metadata"] metadata with e | m
    · simp [hm, Except.isOk, Except.toBool] at hmetadata
    · refine ⟨⟨m, q, []⟩, ?_, rfl⟩
      have hquery : Analytic.readQuery ["query"] (.scalar vs vt s) = .ok q := by
        simp [Analytic.readQuery, Yaml.readText, bind, Except.bind, hq, pure, Except.pure]
      simp [Analytic.read, Yaml.readRecord, Yaml.entries?, Yaml.readFieldsFrom, Yaml.readFieldName,
        Analytic.setField, Analytic.metadataField, Analytic.queryField, bind, Except.bind, hm,
        hquery]
      rfl
  case h_2 => cases hy

/-! ### From the query to the condition -/

/-- Two leaves joined by `and`, in brackets. -/
def both (l l' : Leaf) : Derivation .conjunction :=
  .single (.plain (.brackets (.alone (.and (.plain (.leaf l)) (.single (.plain (.leaf l')))))))

/-- The leaf for the stage in the life of a process. -/
def createLeaf : Leaf := .option "subtype" "create" (by decide) (by decide) (by decide)

/-- The leaf for the name of a program. -/
def nameLeaf (name : String) : Leaf := .compare "process_name" .similar (.text name)

/-- The leaf for a command line that fills a wildcard. -/
def commandLeaf (c : Comparison) (wildcard : String) : Leaf :=
  .compare "command_line" c (.text wildcard)

/-- The leaf for a command line that matches a regular expression up to case. -/
def matchLeaf (expr : String) : Leaf := .call "match~" "command_line" expr []

/-- The derivation of the condition in `startQuery`. -/
def startDerivation : Derivation .disjunction :=
  .alone (.and (.plain (.leaf createLeaf)) (.single (.plain (.brackets
    (.or (both (nameLeaf "sc.exe") (commandLeaf .similar "* start *"))
    (.or (both (nameLeaf "net.exe") (matchLeaf ".*\\sstart\\s+.+"))
    (.or (both (nameLeaf "powershell.exe") (commandLeaf .equal "*Start-Service*"))
    (.alone (both (nameLeaf "wmic.exe")
      (commandLeaf .similar "*service*call*startservice*"))))))))))

set_option maxRecDepth 100000 in
theorem tokens_startQuery : ∃ cs, startQuery = String.ofList cs ∧
    (tokens? cs).toOption = some (.identifier "process" :: .head :: startDerivation.tokens) := by
  unfold startQuery
  with_reducible refine ⟨_, rfl, ?_⟩
  decide

theorem read?_startQuery {c : Condition} (h : startDerivation.condition? = some c) :
    ∃ q, Query.read? startQuery = .ok q ∧ q.head = some "process" ∧ q.condition = c := by
  obtain ⟨cs, hcs, htokens⟩ := tokens_startQuery
  have hread : condition? startDerivation.tokens = .ok c := condition?_of_derives ⟨_, rfl, h⟩
  rw [toOption_eq_some] at htokens
  refine ⟨⟨String.ofList (trim startQuery.toList), some "process", c⟩, ?_, rfl, rfl⟩
  rw [hcs, Query.read?, String.toList_ofList, htokens]
  simp [bind, Except.bind, hread]
  rfl

/-! ### What the tests ask for -/

/-- The regular expression of the analytic: any text, a blank, `start` in any case, blanks, and at
least one character. -/
def startExpr : Pattern.Expr :=
  .sequence ([.repetition (.any true) 0 none true, .set .blank] ++
    (("start".toList.map .letter).map (Pattern.Piece.expr true) ++
      [.repetition (.set .blank) 1 none true, .repetition (.any true) 1 none true]))

/-- The tree of the regular expression. -/
def startNode : Pattern.Node :=
  .inSequence ([.gap, .set .blank] ++ (("start".toList.map .letter).map (Pattern.Piece.node true) ++
    [.repetition (.set .blank) 1 none true, .repetition (.set .everything) 1 none true]))

theorem isPlain_start : Pattern.IsPlain startExpr startNode := by
  refine Pattern.isPlain_sequence (List.rel_append ?_ (List.rel_append (Pattern.isPlain_pieces _) ?_))
  · exact .cons Pattern.isPlain_any.repetition (.cons Pattern.isPlain_set .nil)
  · exact .cons Pattern.isPlain_set.repetition (.cons Pattern.isPlain_any.repetition .nil)

theorem read?_start (size : Nat) : Pattern.read? { fold := true, anyNewline := true }
    ('^' :: ("(?:".toList ++ ".*\\sstart\\s+.+".toList ++ ")".toList ++ ['$'])) size =
      some (Pattern.Reader.anchored [startExpr], []) := by
  unfold startExpr
  simp only [String.reduceToList, List.cons_append, List.nil_append]
  with_unfolding_all rfl

theorem regex?_start : Pattern.regex? ".*\\sstart\\s+.+".toList false =
    (Pattern.Node.whole [startNode]).checked.map .plain := by
  have hplain : Pattern.IsPlain (Pattern.Reader.anchored [startExpr])
      (Pattern.Node.whole [startNode]) :=
    Pattern.IsPlain.anchored (.cons isPlain_start .nil)
  simp only [Pattern.regex?, Pattern.ofBody?, Pattern.compile?, Bool.not_false, read?_start]
  exact hplain.ofExpr?

theorem matching_startNode {t : List Char} : startNode.matching [] t [] ↔
    ∃ a w s w' x b, t = a ++ [w] ++ s ++ [w'] ++ x :: b ∧
      isBlank w = true ∧ TextAgrees false "start".toList s ∧ isBlank w' = true := by
  unfold startNode
  rw [Pattern.Node.matching_inSequence_append]
  constructor
  · rintro ⟨_, _, rfl, ⟨a, _, rfl, -, w, rfl, hw⟩, h⟩
    obtain ⟨s, _, rfl, hs, blanks, rest, rfl, hblanks, hrest⟩ :=
      Pattern.Node.matching_inSequence_append.mp h
    obtain ⟨hlen, hblank⟩ := Pattern.Node.matching_many.mp hblanks
    obtain ⟨w', blanks, rfl⟩ := List.exists_cons_of_length_pos hlen
    obtain ⟨x, rest, rfl⟩ := List.exists_cons_of_length_pos (Pattern.Node.matching_many.mp hrest).1
    have hword : TextAgrees false "start".toList s :=
      Pattern.fits_letters_iff.mp (Pattern.matching_pieces.mp hs)
    -- the further blanks count as what follows the first one
    rcases blanks with _ | ⟨y, blanks⟩
    · exact ⟨a, w, s, w', x, rest, by simp, hw, hword, hblank w' List.mem_cons_self⟩
    · exact ⟨a, w, s, w', y, blanks ++ x :: rest, by simp, hw, hword, hblank w' List.mem_cons_self⟩
  · rintro ⟨a, w, s, w', x, b, rfl, hw, hs, hw'⟩
    have hblank : ∀ c ∈ [w'], Pattern.CharClass.blank.contains c = true := by
      intro c hc
      rw [List.mem_singleton] at hc
      rw [hc]
      exact hw'
    refine ⟨a ++ [w], s ++ ([w'] ++ x :: b), by simp,
      ⟨a, [w], rfl, Pattern.Node.matching_gap, w, rfl, hw⟩, ?_⟩
    have hword : Pattern.Fits (Agrees false) ("start".toList.map .letter) s :=
      Pattern.fits_letters_iff.mpr hs
    refine Pattern.Node.matching_inSequence_append.mpr
      ⟨s, [w'] ++ x :: b, rfl, Pattern.matching_pieces.mpr hword, [w'], x :: b, rfl, ?_, ?_⟩
    · exact Pattern.Node.matching_many.mpr ⟨by simp, hblank⟩
    · exact Pattern.Node.matching_many.mpr
        ⟨by simp, fun _ _ => Pattern.Node.contains_everything⟩

theorem exists_create : ∃ t, createLeaf.test? = some t ∧
    t.Asks "subtype" fun u => equalIgnoringAsciiCase u "create" = true :=
  exists_test_option _ _ _ (by decide)

theorem exists_start : ∃ t, (matchLeaf ".*\\sstart\\s+.+").test? = some t ∧
    t.Asks "command_line" fun u => ∃ a w s w' x b, u.toList = a ++ [w] ++ s ++ [w'] ++ x :: b ∧
      isBlank w = true ∧ TextAgrees false "start".toList s ∧ isBlank w' = true := by
  obtain ⟨q, hq⟩ : ∃ q, (Pattern.Node.whole [startNode]).checked.map Pattern.plain = some q :=
    Option.isSome_iff_exists.mp (by decide)
  have hname : Call.ofName? "match~" = some ⟨.regex, false⟩ := rfl
  obtain ⟨t, ht, hasks⟩ : ∃ t, (matchLeaf ".*\\sstart\\s+.+").test? = some t ∧
      t.Asks "command_line" fun u => q.isMatch u.toList = true :=
    exists_test_call hname (regex?_start.trans hq)
  refine ⟨t, ht, hasks.congr fun u => ?_⟩
  rw [Pattern.isMatch_whole_iff hq, Pattern.Node.inSequence, matching_startNode]

/-- A comparison with a part between two stars asks for a text with this part in it. -/
theorem exists_part {c : Comparison} {wildcard : String} {part : List Char} (hc : c ≠ .unequal)
    (hsome : (Pattern.wildcard? wildcard.toList (c != .similar)).isSome)
    (hparts : wildcard.toList = '*' :: (part ++ ['*'])) (hpart : '*' ∉ part) :
    ∃ t, (commandLeaf c wildcard).test? = some t ∧
      t.Asks "command_line" fun u => ∃ a s b, u.toList = a ++ s ++ b ∧
        TextAgrees (c != .similar) part s := by
  obtain ⟨t, ht, hasks⟩ : ∃ t, (commandLeaf c wildcard).test? = some t ∧
      t.Asks "command_line" fun u =>
        ∃ ws, Pattern.Fills (Agrees (c != .similar)) wildcard.toList ws u.toList :=
    exists_test_wildcard hc (by simp [hparts]) hsome
  refine ⟨t, ht, hasks.congr fun u => ?_⟩
  rw [hparts, Pattern.exists_fills_part hpart]
  constructor
  · rintro ⟨a, s, b, hu, hs, -⟩
    exact ⟨a, s, b, by simpa using hu, hs⟩
  · rintro ⟨a, s, b, hu, hs⟩
    exact ⟨a, s, b, by simpa using hu, hs, Pattern.exists_fills_only_star⟩

theorem exists_sc : ∃ t, (commandLeaf .similar "* start *").test? = some t ∧
    t.Asks "command_line" fun u => ∃ a s b, u.toList = a ++ s ++ b ∧
      TextAgrees false " start ".toList s :=
  exists_part (by decide) (by decide +kernel) (by decide) (by decide)

theorem exists_powershell : ∃ t, (commandLeaf .equal "*Start-Service*").test? = some t ∧
    t.Asks "command_line" fun u => ∃ a b, u.toList = a ++ "Start-Service".toList ++ b := by
  obtain ⟨t, ht, hasks⟩ : ∃ t, (commandLeaf .equal "*Start-Service*").test? = some t ∧
      t.Asks "command_line" fun u => ∃ a s b, u.toList = a ++ s ++ b ∧
        TextAgrees true "Start-Service".toList s :=
    exists_part (by decide) (by decide +kernel) (by decide) (by decide)
  refine ⟨t, ht, hasks.congr fun u => ?_⟩
  simp only [TextAgrees, agrees_true, List.forall₂_eq_eq_eq]
  constructor
  · rintro ⟨a, _, b, hu, rfl⟩
    exact ⟨a, b, hu⟩
  · rintro ⟨a, b, hu⟩
    exact ⟨a, _, b, hu, rfl⟩

theorem exists_wmic : ∃ t, (commandLeaf .similar "*service*call*startservice*").test? = some t ∧
    t.Asks "command_line" fun u => ∃ a s₁ b s₂ d s₃ e,
      u.toList = a ++ s₁ ++ b ++ s₂ ++ d ++ s₃ ++ e ∧ TextAgrees false "service".toList s₁ ∧
      TextAgrees false "call".toList s₂ ∧ TextAgrees false "startservice".toList s₃ := by
  obtain ⟨t, ht, hasks⟩ : ∃ t, (commandLeaf .similar "*service*call*startservice*").test? = some t ∧
      t.Asks "command_line" fun u =>
        ∃ ws, Pattern.Fills (Agrees false) "*service*call*startservice*".toList ws u.toList :=
    exists_test_wildcard (by decide) (by decide) (by decide +kernel)
  have hparts : "*service*call*startservice*".toList = '*' :: ("service".toList ++
      '*' :: ("call".toList ++ '*' :: ("startservice".toList ++ ['*']))) := by
    decide
  refine ⟨t, ht, hasks.congr fun u => ?_⟩
  rw [hparts, Pattern.exists_fills_part (by decide)]
  simp only [Pattern.exists_fills_part (show '*' ∉ "call".toList by decide),
    Pattern.exists_fills_part (show '*' ∉ "startservice".toList by decide)]
  constructor
  · rintro ⟨a, s₁, _, hu, h₁, b, s₂, _, rfl, h₂, d, s₃, e, rfl, h₃, -⟩
    exact ⟨a, s₁, b, s₂, d, s₃, e, by simpa using hu, h₁, h₂, h₃⟩
  · rintro ⟨a, s₁, b, s₂, d, s₃, e, hu, h₁, h₂, h₃⟩
    exact ⟨a, s₁, _, by simpa using hu, h₁, b, s₂, _, rfl, h₂, d, s₃, e, rfl, h₃,
      Pattern.exists_fills_only_star⟩

theorem exists_name (name : String) (hstar : '*' ∉ name.toList)
    (h : IsDomestic (name.toList.map asciiLower)) : ∃ t, (nameLeaf name).test? = some t ∧
      t.Asks "process_name" fun u => equalIgnoringAsciiCase u name = true :=
  exists_test_named hstar h

/-! ### From the condition to the answers -/

theorem condition?_both {l l' : Leaf} {t t' : Test} (h : l.test? = some t)
    (h' : l'.test? = some t') :
    (both l l').condition? = some (.conjunction (.test t) (.test t')) := by
  simp [both, Derivation.condition?, h, h']

theorem exists_condition : ∃ c, startDerivation.condition? = some c :=
  Option.isSome_iff_exists.mp (by decide +kernel)

/-- The analytic has the condition that its derivation stands for. -/
theorem exists_analytic {c : Condition} (h : startDerivation.condition? = some c) :
    ∃ a, serviceControlStart? = some a ∧ a.query.head = some "process" ∧ a.query.condition = c := by
  obtain ⟨q, hq, hhead, hcondition⟩ := read?_startQuery h
  obtain ⟨cs, hcs, hrule⟩ := exists_document
  obtain ⟨y, hy, hrule⟩ := (Option.any_eq_true _ _).mp hrule
  obtain ⟨a, ha, rfl⟩ := read_of_isRuleOf hrule hq
  refine ⟨a, ?_, hhead, hcondition⟩
  rw [serviceControlStart?, toOption_eq_some, Analytic.ofYaml?, Yaml.readDocument, hcs,
    String.toList_ofList, hy]
  exact ha

/-- Each test of the condition is written as one of the leaves. -/
theorem exists_parts_of_mem_tests {c : Condition} {t : Test}
    (h : startDerivation.condition? = some c) (ht : t ∈ c.tests) :
    ∃ l ∈ startDerivation.leaves, l.parts? = some (t.field, t.form) := by
  obtain ⟨l, hl, ht⟩ := Derivation.exists_leaf_of_mem_tests h ht
  exact ⟨l, hl, Leaf.test?_eq_some.mp ht⟩

theorem appliesTo_iff {q : Query} (hhead : q.head = some "process") {e : Event} {name : String}
    (hclass : e.class? = some name) :
    q.appliesTo e = equalIgnoringAsciiCase name "process" := by
  have hq : q.class? = some "process" := by
    rw [Query.class?, hhead]
    decide
  rw [Query.appliesTo, hq, hclass]

theorem appliesTo_toEvent {q : Query} (h : q.head = some "process") (p : ProcessRecord) :
    q.appliesTo p.toEvent = true := by
  rw [appliesTo_iff h ProcessRecord.class?_toEvent]
  decide

theorem name_equal_create {s : Subtype} :
    equalIgnoringAsciiCase s.name "create" = true ↔ s = .create := by
  cases s <;> decide

theorem subtype_iff {p : ProcessRecord} :
    (∃ u, p.subtype.map Subtype.name = some u ∧ equalIgnoringAsciiCase u "create" = true) ↔
      p.subtype = some .create := by
  rcases p.subtype with _ | s
  · simp
  · simp [name_equal_create]

/-- **What counts as the start of a service.** The analytic detects the records of processes that
are created with a name and a command line such that one of four holds: the name is `sc.exe`, and
` start ` is in the command line; it is `net.exe`, and in the command line is `start` with a blank
before it, and after it a blank and another character; it is `powershell.exe`, and `Start-Service`
is in the command line; or it is `wmic.exe`, and `service`, `call` and `startservice` are in the
command line in this order. Names are compared up to the case of ASCII letters, the parts of the
command line up to case folding, except for `Start-Service`, which has to be there as it stands. -/
theorem detectsServiceStart_iff (p : ProcessRecord) : detectsServiceStart p = true ↔
    p.subtype = some .create ∧ ∃ n c, p.name = some n ∧ p.commandLine = some c ∧
      ((equalIgnoringAsciiCase n "sc.exe" = true ∧
          ∃ a s b, c.toList = a ++ s ++ b ∧ TextAgrees false " start ".toList s) ∨
        (equalIgnoringAsciiCase n "net.exe" = true ∧
          ∃ a w s w' x b, c.toList = a ++ [w] ++ s ++ [w'] ++ x :: b ∧
            isBlank w = true ∧ TextAgrees false "start".toList s ∧ isBlank w' = true) ∨
        (equalIgnoringAsciiCase n "powershell.exe" = true ∧
          ∃ a b, c.toList = a ++ "Start-Service".toList ++ b) ∨
        (equalIgnoringAsciiCase n "wmic.exe" = true ∧
          ∃ a s₁ b s₂ d s₃ e, c.toList = a ++ s₁ ++ b ++ s₂ ++ d ++ s₃ ++ e ∧
            TextAgrees false "service".toList s₁ ∧ TextAgrees false "call".toList s₂ ∧
            TextAgrees false "startservice".toList s₃)) := by
  obtain ⟨t, ht, hcreate⟩ := exists_create
  obtain ⟨n₁, hn₁, hname₁⟩ := exists_name "sc.exe" (by decide) (by decide)
  obtain ⟨n₂, hn₂, hname₂⟩ := exists_name "net.exe" (by decide) (by decide)
  obtain ⟨n₃, hn₃, hname₃⟩ := exists_name "powershell.exe" (by decide) (by decide)
  obtain ⟨n₄, hn₄, hname₄⟩ := exists_name "wmic.exe" (by decide) (by decide)
  obtain ⟨c₁, hc₁, hcommand₁⟩ := exists_sc
  obtain ⟨c₂, hc₂, hcommand₂⟩ := exists_start
  obtain ⟨c₃, hc₃, hcommand₃⟩ := exists_powershell
  obtain ⟨c₄, hc₄, hcommand₄⟩ := exists_wmic
  have hcondition : startDerivation.condition? = some (.conjunction (.test t)
      (.disjunction (.conjunction (.test n₁) (.test c₁))
      (.disjunction (.conjunction (.test n₂) (.test c₂))
      (.disjunction (.conjunction (.test n₃) (.test c₃))
      (.conjunction (.test n₄) (.test c₄)))))) := by
    simp [startDerivation, Derivation.condition?, ht, condition?_both hn₁ hc₁,
      condition?_both hn₂ hc₂, condition?_both hn₃ hc₃, condition?_both hn₄ hc₄]
  obtain ⟨a, ha, hhead, hcond⟩ := exists_analytic hcondition
  have hdetects : detectsServiceStart p = a.query.condition.holds p.toEvent := by
    rw [detectsServiceStart, ha, Option.any_some, Analytic.detects, Query.selects,
      appliesTo_toEvent hhead, Bool.true_and]
  have hsubtype : p.toEvent.find? "subtype" = (p.subtype.map Subtype.name).map .text :=
    ProcessRecord.find?_toEvent (by simp [ProcessRecord.attributes, ProcessRecord.subtypeField])
  have hname : p.toEvent.find? "process_name" = p.name.map .text :=
    ProcessRecord.find?_toEvent (by simp [ProcessRecord.attributes, ProcessRecord.nameField])
  have hcommand : p.toEvent.find? "command_line" = p.commandLine.map .text :=
    ProcessRecord.find?_toEvent (by simp [ProcessRecord.attributes, ProcessRecord.commandLineField])
  rw [hdetects, hcond]
  simp only [Condition.holds, Bool.and_eq_true, Bool.or_eq_true, hcreate _ _ hsubtype,
    hname₁ _ _ hname, hname₂ _ _ hname, hname₃ _ _ hname, hname₄ _ _ hname,
    hcommand₁ _ _ hcommand, hcommand₂ _ _ hcommand, hcommand₃ _ _ hcommand,
    hcommand₄ _ _ hcommand, subtype_iff]
  rcases p.name with _ | n
  · simp
  · rcases p.commandLine with _ | c
    · simp
    · simp only [Option.some.injEq, exists_eq_left', exists_and_left]

end Vigil.Library
