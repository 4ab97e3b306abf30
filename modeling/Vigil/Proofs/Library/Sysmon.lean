import Vigil.Library.Sysmon
import Vigil.Proofs.Library.ServiceControlStart
import Vigil.Proofs.Normalizer.Dependence
import Vigil.Proofs.Normalizer.LastWriter
import Vigil.Proofs.Normalizer.Loading
import Vigil.Proofs.Normalizer.Paths

/-! # Starts of services among Sysmon's events

The normalizer of Sysmon and the analytic of service starts, one after the other, against the
analytic on the record of a process.

* `exists_sysmon`: the normalizer is that of the description `sysmonDescription`;
* `class?_of_create`, `namesProcess_of_class?`: which events have the class of processes;
* `lookup_sysmon`, `lookup_process`, `find?_eq_of_create`: what is written for an event;
* `detects_normalize_iff`: the events in whose common form the analytic finds the start of a
  service.
-/

namespace Vigil.Library

open Vigil.Query Vigil.Text

/-! ### From the text to the normalizer -/

/-- The class of the events of processes. -/
def processDescription : EventClassDescription :=
  { filter := "EventId in (1, 5)",
    enums := [("subtype", [("create", "EventId == 1"), ("terminate", "EventId == 5")])] }

/-- The other classes. -/
def otherDescriptions : List (String × EventClassDescription) :=
  [("network",
      { filter := "EventId == 3",
        mappings := [("destination_address", "DestinationIp"),
          ("destination_port", "DestinationPort"), ("source_address", "SourceIp"),
          ("source_port", "SourcePort")],
        enums :=
          [("protocol", [("tcp", "Protocol == \"tcp\""), ("udp", "Protocol == \"udp\"")])] }),
    ("image_load",
      { filter := "EventId == 7",
        mappings := [("image_name", "baseName(ImageLoaded)"), ("image_path", "ImageLoaded")] }),
    ("file",
      { filter := "EventId in (2, 11, 23)",
        mappings := [("file_name", "baseName(TargetFilename)"), ("file_path", "TargetFilename")],
        enums := [("subtype", [("create", "EventId in (2, 11)"), ("delete", "EventId == 23")])] }),
    ("registry",
      { filter := "EventId in (12, 13, 14)",
        mappings := [("registry_path", "TargetObject"), ("registry_data", "Details")] })]

/-- The description of the normalizer. -/
def sysmonDescription : NormalizerDescription :=
  { name := "Microsoft Sysmon", domain := some "endpoint", strict := true,
    timestamp := some ⟨"UtcTime", "%Y-%m-%d %H:%M:%S%.f"⟩,
    mappings := [("command_line", "CommandLine"), ("logon_id", "LogonId"),
      ("parent_process_name", "baseName(ParentImage)"), ("parent_process_path", "ParentImage"),
      ("pid", "ProcessId"), ("ppid", "ParentProcessId"), ("process_name", "baseName(Image)"),
      ("process_path", "Image"), ("unique_pid", "ProcessGuid"),
      ("unique_ppid", "ParentProcessGuid"), ("user_name", "User")],
    classes := ("process", processDescription) :: otherDescriptions }

set_option maxRecDepth 100000 in
theorem exists_sysmonDocument : ∃ cs, sysmonText = String.ofList cs ∧
    (Yaml.document? cs).any (fun y =>
      (NormalizerDescription.ofYaml [] y).toOption = some sysmonDescription) = true ∧
    sysmonDescription.toNormalizer?.isOk = true := by
  unfold sysmonText
  with_reducible refine ⟨_, rfl, ?_⟩
  decide +kernel

/-- The normalizer of Sysmon is that of its description. -/
theorem exists_sysmon : ∃ n, sysmon? = some n ∧ sysmonDescription.Describes n := by
  obtain ⟨cs, hcs, hdocument, hok⟩ := exists_sysmonDocument
  obtain ⟨y, hy, hdescription⟩ := (Option.any_eq_true _ _).mp hdocument
  rw [decide_eq_true_iff, toOption_eq_some] at hdescription
  obtain ⟨n, hn⟩ := exists_of_isOk hok
  refine ⟨n, ?_, NormalizerDescription.describes_of_toNormalizer? hn⟩
  rw [sysmon?, toOption_eq_some, Normalizer.ofYaml?, Yaml.readDocument, hcs, String.toList_ofList,
    hy]
  simp [Normalizer.read, hdescription, bind, Except.bind, hn, Except.mapError]

variable {n : Normalizer} {r out : Event} {q : Query}

theorem classNames_sysmon (hn : sysmonDescription.Describes n) :
    n.classNames = ["process", "network", "image_load", "file", "registry"] := hn.classNames

/-- The mappings for all classes. -/
def sysmonMappings : List (String × Mapping) :=
  [("command_line", .field "CommandLine"), ("logon_id", .field "LogonId"),
    ("parent_process_name", .baseName "ParentImage"), ("parent_process_path", .field "ParentImage"),
    ("pid", .field "ProcessId"), ("ppid", .field "ParentProcessId"),
    ("process_name", .baseName "Image"), ("process_path", .field "Image"),
    ("unique_pid", .field "ProcessGuid"), ("unique_ppid", .field "ParentProcessGuid"),
    ("user_name", .field "User")]

theorem mappings_sysmon (hn : sysmonDescription.Describes n) : n.mappings = sysmonMappings := by
  have hread :
      (sysmonDescription.mappings.mapM Mapping.ofEntry?).toOption = some sysmonMappings := rfl
  rw [toOption_eq_some, mapM_ofEntry?_eq_ok.mpr hn.mappings] at hread
  exact Except.ok.inj hread

/-! ### Conditions of one leaf -/

/-- The tree of a leaf by itself. -/
def leafDerivation (l : Leaf) : Derivation .disjunction := .alone (.single (.plain (.leaf l)))

theorem exists_test_of_readCondition? {text : String} {l : Leaf}
    (htokens : (tokens? text.toList).toOption = some l.tokens)
    (h : Query.readCondition? text = .ok q) :
    ∃ t, l.test? = some t ∧ ∀ e, q.selects e = t.holds e := by
  obtain ⟨ts, hts, h⟩ := bind_eq_ok.mp h
  rw [toOption_eq_some, hts] at htokens
  obtain rfl := Except.ok.inj htokens
  split at h
  case h_1 => cases h
  case h_2 =>
    obtain ⟨c, hc, heq⟩ := bind_eq_ok.mp h
    cases heq
    obtain ⟨d, hd, hcondition⟩ := derives_of_condition? hc
    have hd' : d.tokens ++ [] = (leafDerivation l).tokens ++ [] := congrArg (· ++ []) hd
    obtain ⟨rfl, -⟩ := Derivation.tokens_append_inj stops_nil stops_nil hd'
    obtain ⟨t, ht, heq⟩ := Option.bind_eq_some_iff.mp hcondition
    cases heq
    exact ⟨t, ht, fun e => rfl⟩

/-- A test that asks for one of some values asks for one of more values too. -/
theorem holds_of_operands_subset {t u : Test} {e : Event} (hfield : t.field = u.field)
    (ht : t.form.isNegated = false) (hu : u.form.isNegated = false)
    (hoperands : t.operands ⊆ u.operands) (h : t.holds e = true) : u.holds e = true := by
  unfold Test.holds at h ⊢
  rw [← hfield]
  split at h
  case h_1 => cases h
  case h_2 v hv =>
    rw [ht, Bool.bne_false, Test.satisfiedBy_eq_any, List.any_eq_true] at h
    obtain ⟨s, hs, h⟩ := h
    obtain ⟨o, ho, h⟩ := List.any_eq_true.mp h
    rw [hu, Bool.bne_false, Test.satisfiedBy_eq_any, List.any_eq_true]
    exact ⟨s, hs, List.any_eq_true.mpr ⟨o, hoperands ho, h⟩⟩

/-- The filter of processes selects what is created. -/
theorem selects_filter_of_selects {filter : Query} {e : Event}
    (hfilter : Query.readCondition? "EventId in (1, 5)" = .ok filter)
    (hq : Query.readCondition? "EventId == 1" = .ok q) (h : q.selects e = true) :
    filter.selects e = true := by
  obtain ⟨u, hu, hfilter⟩ := exists_test_of_readCondition?
    (l := .member "EventId" true (.integer 1) [.integer 5]) rfl hfilter
  obtain ⟨t, ht, hq⟩ := exists_test_of_readCondition?
    (l := .compare "EventId" .equal (.integer 1)) rfl hq
  obtain ⟨hufield, huform, huoperands⟩ := Leaf.of_test? hu rfl
  obtain ⟨htfield, htform, htoperands⟩ := Leaf.of_test? ht rfl
  rw [hfilter]
  rw [hq] at h
  refine holds_of_operands_subset (htfield.trans hufield.symm) ?_ ?_ ?_ h
  · rw [htform]
    rfl
  · rw [huform]
    rfl
  · rw [← Option.some.inj htoperands, ← Option.some.inj huoperands]
    exact List.cons_subset_cons _ (List.nil_subset _)

/-! ### The class of the events of processes -/

variable {c : EventClass} {classes : List EventClass}

/-- The class of the events of processes, which is the first that is tried. -/
theorem exists_processClass (hn : sysmonDescription.Describes n) :
    ∃ c classes, n.classes = c :: classes ∧ processDescription.Describes "process" c := by
  obtain ⟨c, classes, hc, -, hclasses⟩ := List.forall₂_cons_left_iff.mp hn.classes
  exact ⟨c, classes, hclasses, hc⟩

theorem exists_enums (hc : processDescription.Describes "process" c) : ∃ create terminate,
    c.enums = [("subtype", [("create", create), ("terminate", terminate)])] ∧
      Query.readCondition? "EventId == 1" = .ok create := by
  obtain ⟨options, _, hoptions, hnil, henums⟩ := readAs_cons.mp hc.enums
  obtain ⟨create, _, hcreate, hlast, rfl⟩ := readAs_cons.mp hoptions
  obtain ⟨terminate, _, -, hend, rfl⟩ := readAs_cons.mp hlast
  obtain rfl := readAs_nil.mp hnil
  obtain rfl := readAs_nil.mp hend
  exact ⟨create, terminate, henums, hcreate⟩

/-- Of the classes only that of processes has its name. -/
theorem eq_of_name_eq (hn : sysmonDescription.Describes n) (hclasses : n.classes = c :: classes)
    {d : EventClass} (hd : d ∈ n.classes) (hname : d.name = "process") : d = c := by
  have hnames := classNames_sysmon hn
  rw [Normalizer.classNames, hclasses, List.map_cons] at hnames
  obtain ⟨-, hothers⟩ := List.cons.inj hnames
  rw [hclasses] at hd
  rcases List.mem_cons.mp hd with hd | hd
  · exact hd
  · have hmem : d.name ∈ classes.map (·.name) := List.mem_map_of_mem hd
    rw [hothers, hname] at hmem
    exact absurd hmem (by decide)

/-- Whether an event can have the class of processes by the name that it gives: it is that of this
class, or of none that is known. -/
def NamesProcess (n : Normalizer) (r : Event) : Prop :=
  r.class? = some "process" ∨ ∀ name, r.class? = some name → name ∉ n.classNames

/-- An event that is created has the class of processes, unless it names another one. -/
theorem class?_of_create (hc : processDescription.Describes "process" c)
    (hclasses : n.classes = c :: classes) (hq : Query.readCondition? "EventId == 1" = .ok q)
    (hselects : q.selects r = true) (hnames : NamesProcess n r) : n.class? r = some c := by
  have hname : c.name = "process" := hc.name
  have hfilter : c.filter.selects r = true := selects_filter_of_selects hc.filter hq hselects
  rw [Normalizer.class?_eq_classOf, Normalizer.classOf, hclasses]
  rcases hnames with hprocess | hunknown
  · simp [hprocess, hname]
  · have hnone : ((c :: classes).find? fun d => r.class? = some d.name) = none := by
      rw [List.find?_eq_none, ← hclasses]
      intro d hd hdname
      exact hunknown d.name (of_decide_eq_true hdname) (List.mem_map_of_mem hd)
    simp [hnone, hfilter]

theorem namesProcess_of_class? (hclass : n.class? r = some c) (hname : c.name = "process") :
    NamesProcess n r := by
  rw [Normalizer.class?_eq_classOf, Normalizer.classOf] at hclass
  rcases hnamed : n.classes.find? fun d => r.class? = some d.name with _ | d
  · right
    intro name hr hmem
    obtain ⟨d, hd, rfl⟩ := List.mem_map.mp hmem
    exact List.find?_eq_none.mp hnamed d hd (decide_eq_true hr)
  · left
    rw [hnamed, Option.some_or] at hclass
    obtain rfl := Option.some.inj hclass
    rw [← hname]
    have hfound := List.find?_some (p := fun d : EventClass => r.class? = some d.name) hnamed
    exact of_decide_eq_true hfound

/-! ### What is written for an event -/

theorem visible_sysmon (hn : sysmonDescription.Describes n) : n.visible r = r := by
  have hscope : n.scope = none := hn.scope
  rw [Normalizer.visible, hscope]

/-- The fields of the common form, apart from the timestamp. -/
theorem lookup_sysmon (hn : sysmonDescription.Describes n) (h : n.normalize r = .ok out)
    {k : String} (hk : k ≠ "timestamp") : out.fields.lookup k =
      if k = "event_type" then some (.text (((n.class? r).map (·.name)).getD "generic"))
      else ((n.classAssignments r).reverse.lookup k).or
        (lastGiven? sysmonMappings (fun m => m.value? r) k) := by
  obtain ⟨t, -, hout⟩ := bind_eq_ok.mp h
  cases hout
  have hstrict : n.strict = true := hn.strict
  have hlookup := Event.lookup_writeAll (k := k) (n.base r) (n.assignments r t)
  rw [Normalizer.lookup_assignments, Normalizer.lookup_base, visible_sysmon hn, if_pos hstrict,
    if_neg hk, Option.none_or, Option.or_none, mappings_sysmon hn] at hlookup
  refine hlookup.trans ?_
  split <;> simp

theorem class?_sysmon (hn : sysmonDescription.Describes n) (h : n.normalize r = .ok out) :
    out.class? = some (((n.class? r).map (·.name)).getD "generic") := by
  rw [Event.class?, Event.classField, lookup_sysmon hn h (by decide), if_pos rfl]
  rfl

/-- The fields of the common form of an event of a process. -/
theorem lookup_process (hn : sysmonDescription.Describes n)
    (hc : processDescription.Describes "process" c) (h : n.normalize r = .ok out)
    (hclass : n.class? r = some c) {k : String} (hk : k ≠ "timestamp" ∧ k ≠ "event_type") :
    out.fields.lookup k =
      (lastGiven? c.enums (fun options => (selectedOption? options r).map .text) k).or
        (lastGiven? sysmonMappings (fun m => m.value? r) k) := by
  have hmappings : c.mappings = [] := readAs_nil.mp hc.mappings
  rw [lookup_sysmon hn h hk.1, if_neg hk.2, Normalizer.lookup_classAssignments, hclass,
    Option.bind_some, Option.bind_some, hmappings]
  rfl

theorem find?_process (hn : sysmonDescription.Describes n)
    (hc : processDescription.Describes "process" c) (h : n.normalize r = .ok out)
    (hclass : n.class? r = some c) {create terminate : Query}
    (henums : c.enums = [("subtype", [("create", create), ("terminate", terminate)])]) :
    out.find? "subtype" =
        (selectedOption? [("create", create), ("terminate", terminate)] r).map .text ∧
      out.find? "process_name" = (Mapping.baseName "Image").value? r ∧
      out.find? "command_line" = r.find? "CommandLine" := by
  refine ⟨?_, ?_, ?_⟩
  · rw [Event.find?_of_no_dot _ (by decide), lookup_process hn hc h hclass (by decide), henums]
    simp [lastGiven?, sysmonMappings]
  · rw [Event.find?_of_no_dot _ (by decide), lookup_process hn hc h hclass (by decide), henums]
    rcases hname : (Mapping.baseName "Image").value? r with _ | v <;>
      simp [lastGiven?, sysmonMappings, hname]
  · rw [Event.find?_of_no_dot _ (by decide), lookup_process hn hc h hclass (by decide), henums]
    rcases hcommand : r.find? "CommandLine" with _ | v <;>
      simp [lastGiven?, sysmonMappings, Mapping.value?, hcommand]

/-! ### What the analytic detects -/

theorem condition?_and_leaf {l : Leaf} {d : Derivation .conjunction} {c : Condition}
    (h : (Derivation.alone (.and (.plain (.leaf l)) d)).condition? = some c) :
    ∃ t e, l.test? = some t ∧ c = .conjunction (.test t) e := by
  have hand : (Derivation.and (.plain (.leaf l)) d).condition? = some c := h
  obtain ⟨_, e, hl, -, rfl⟩ := Derivation.condition?_and_eq_some.mp hand
  obtain ⟨t, ht, rfl⟩ := Derivation.condition?_leaf_eq_some.mp hl
  exact ⟨t, e, ht, rfl⟩

/-- The condition of the analytic asks for an event that is created, and reads three fields. -/
theorem exists_startCondition : ∃ a t e, serviceControlStart? = some a ∧
    a.query.head = some "process" ∧ a.query.condition = .conjunction (.test t) e ∧
    (t.Asks "subtype" fun u => equalIgnoringAsciiCase u "create" = true) ∧
    ∀ u ∈ a.query.condition.tests, u.field ∈ ["subtype", "process_name", "command_line"] := by
  obtain ⟨c, hc⟩ := exists_condition
  obtain ⟨a, ha, hhead, rfl⟩ := exists_analytic hc
  obtain ⟨t, ht, hasks⟩ := exists_create
  obtain ⟨t', e, ht', hcondition⟩ := condition?_and_leaf hc
  obtain rfl := Option.some.inj (ht.symm.trans ht')
  refine ⟨a, t, e, ha, hhead, hcondition, hasks, ?_⟩
  intro u hu
  obtain ⟨l, hl, hparts⟩ := exists_parts_of_mem_tests hc hu
  have hfields : ∀ l ∈ startDerivation.leaves, ∀ p ∈ l.parts?,
      p.1 ∈ ["subtype", "process_name", "command_line"] := by
    decide
  exact hfields l hl _ hparts

/-- Names that are those of classes and that the analytic takes for that of processes. -/
theorem eq_process_of_appliesTo {name : String}
    (hmem : name ∈ ["process", "network", "image_load", "file", "registry", "generic"])
    (h : equalIgnoringAsciiCase name "process" = true) : name = "process" := by
  have hall : ∀ name ∈ ["process", "network", "image_load", "file", "registry", "generic"],
      equalIgnoringAsciiCase name "process" = true → name = "process" := by
    decide
  exact hall name hmem h

/-- The analytic applies to the events of the class of processes only. -/
theorem appliesTo_normalize (hn : sysmonDescription.Describes n) (h : n.normalize r = .ok out)
    (hhead : q.head = some "process") :
    q.appliesTo out = true ↔ ∃ c, n.class? r = some c ∧ c.name = "process" := by
  rw [appliesTo_iff hhead (class?_sysmon hn h)]
  rcases hclass : n.class? r with _ | c
  · simp only [Option.map_none, Option.getD_none, reduceCtorEq, false_and, exists_false, iff_false]
    decide
  · have hmem : c.name ∈ n.classNames :=
      List.mem_map_of_mem (Normalizer.mem_classes_of_class? hclass)
    rw [classNames_sysmon hn] at hmem
    simp only [Option.map_some, Option.getD_some, Option.some.injEq, exists_eq_left']
    constructor
    · exact eq_process_of_appliesTo (List.mem_append_left ["generic"] hmem)
    · intro hname
      rw [hname]
      decide

/-! ### Events and records -/

/-- The record of the process that an event with a path and a command line is about. -/
def createdProcess (image command : Option String) : ProcessRecord :=
  { subtype := some .create,
    name := image.map fun path =>
      String.ofList (path.toList.rtakeWhile fun c => !isPathSeparator c),
    commandLine := command }

theorem value?_baseName {image : Option String} (h : r.find? "Image" = image.map .text) :
    (Mapping.baseName "Image").value? r = (createdProcess image none).name.map .text := by
  have htext : r.findText? "Image" = image := by
    rw [Event.findText?, h]
    rcases image with _ | path <;> rfl
  rw [Mapping.value?, htext]
  simp [createdProcess, baseName_eq, Function.comp_def]

/-- The common form of an event that is created and the event of its record have the same fields,
as far as the analytic reads them. -/
theorem find?_eq_of_create (hn : sysmonDescription.Describes n)
    (hc : processDescription.Describes "process" c) (h : n.normalize r = .ok out)
    (hclass : n.class? r = some c) {create terminate : Query}
    (henums : c.enums = [("subtype", [("create", create), ("terminate", terminate)])])
    (hselects : create.selects r = true) {image command : Option String}
    (himage : r.find? "Image" = image.map .text)
    (hcommand : r.find? "CommandLine" = command.map .text) {field : String}
    (hfield : field ∈ ["subtype", "process_name", "command_line"]) :
    out.find? field = (createdProcess image command).toEvent.find? field := by
  obtain ⟨hsubtype, hname, hline⟩ := find?_process hn hc h hclass henums
  have hoption :
      selectedOption? [("create", create), ("terminate", terminate)] r = some "create" := by
    simp [selectedOption?, hselects]
  have hattribute (text : Option String) (hmem : (field, text) ∈
      (createdProcess image command).attributes) :
      (createdProcess image command).toEvent.find? field = text.map .text :=
    ProcessRecord.find?_toEvent hmem
  simp only [List.mem_cons, List.not_mem_nil, or_false] at hfield
  rcases hfield with rfl | rfl | rfl
  · rw [hsubtype, hoption, hattribute (some "create")]
    simp [ProcessRecord.attributes, ProcessRecord.subtypeField, createdProcess, Subtype.name]
  · rw [hname, value?_baseName himage, hattribute (createdProcess image none).name]
    simp [ProcessRecord.attributes, ProcessRecord.nameField, createdProcess]
  · rw [hline, hcommand, hattribute command]
    simp [ProcessRecord.attributes, ProcessRecord.commandLineField, createdProcess]

/-- Of the options for the stage in the life of a process only the first is taken for `create`. -/
theorem selects_of_selectedOption? {create terminate : Query} {option : String}
    (h : selectedOption? [("create", create), ("terminate", terminate)] r = some option)
    (hoption : equalIgnoringAsciiCase option "create" = true) : create.selects r = true := by
  by_contra hselects
  rw [Bool.not_eq_true] at hselects
  rcases hterminate : terminate.selects r with _ | _
  · simp [selectedOption?, hselects, hterminate] at h
  · obtain rfl : "terminate" = option := by simpa [selectedOption?, hselects, hterminate] using h
    exact absurd hoption (by decide)

/-- **Starts of services among Sysmon's events.** What the analytic finds in the common forms of
events is this: an event names the class of processes, or none that is known; it is one of a process
that is created; and the record with the last part of its path and its command line is that of the
start of a service. -/
theorem detects_normalize_iff : ∃ n, sysmon? = some n ∧
    ∀ (r out : Event) (image command : Option String), n.normalize r = .ok out →
      r.find? "Image" = image.map .text → r.find? "CommandLine" = command.map .text →
      ((serviceControlStart?.any fun a => a.detects out) = true ↔
        (r.class? = some "process" ∨ ∀ name, r.class? = some name →
          name ∉ ["process", "network", "image_load", "file", "registry"]) ∧
        ((Query.readCondition? "EventId == 1").toOption.any fun q => q.selects r) = true ∧
        detectsServiceStart (createdProcess image command) = true) := by
  obtain ⟨n, hsysmon, hn⟩ := exists_sysmon
  refine ⟨n, hsysmon, ?_⟩
  intro r out image command h himage hcommand
  obtain ⟨c, classes, hclasses, hc⟩ := exists_processClass hn
  obtain ⟨create, terminate, henums, hcreate⟩ := exists_enums hc
  obtain ⟨a, t, e, ha, hhead, hcondition, hasks, hfields⟩ := exists_startCondition
  have hcname : c.name = "process" := hc.name
  have hdetects : (serviceControlStart?.any fun a => a.detects out) =
      (a.query.appliesTo out && a.query.condition.holds out) := by
    rw [ha, Option.any_some, Analytic.detects, Query.selects]
  have hrecord : detectsServiceStart (createdProcess image command) =
      a.query.condition.holds (createdProcess image command).toEvent := by
    rw [detectsServiceStart, ha, Option.any_some, Analytic.detects, Query.selects,
      appliesTo_toEvent hhead, Bool.true_and]
  have hleaf : ((Query.readCondition? "EventId == 1").toOption.any fun q => q.selects r) =
      create.selects r := by
    rw [hcreate]
    rfl
  -- what is created and has the class of processes is looked at as its record is
  have hholds (hclass : n.class? r = some c) (hselects : create.selects r = true) :
      a.query.condition.holds out =
        a.query.condition.holds (createdProcess image command).toEvent :=
    Condition.holds_congr_of_tests fun u hu =>
      find?_eq_of_create hn hc h hclass henums hselects himage hcommand (hfields u hu)
  rw [hdetects, hrecord, hleaf, ← classNames_sysmon hn, Bool.and_eq_true,
    appliesTo_normalize hn h hhead]
  constructor
  · rintro ⟨⟨d, hclass, hname⟩, hout⟩
    obtain rfl := eq_of_name_eq hn hclasses (Normalizer.mem_classes_of_class? hclass) hname
    obtain ⟨hsubtype, -, -⟩ := find?_process hn hc h hclass henums
    have hstage : t.holds out = true := by
      rw [hcondition, Condition.holds, Bool.and_eq_true] at hout
      exact hout.1
    obtain ⟨option, hoption, hequal⟩ := (hasks out _ hsubtype).mp hstage
    have hselects : create.selects r = true := selects_of_selectedOption? hoption hequal
    exact ⟨namesProcess_of_class? hclass hname, hselects, hholds hclass hselects ▸ hout⟩
  · rintro ⟨hnames, hselects, hout⟩
    have hclass : n.class? r = some c := class?_of_create hc hclasses hcreate hselects hnames
    exact ⟨⟨c, hclass, hcname⟩, (hholds hclass hselects).trans hout⟩

/-- An event of a process that is created, and the record that decides on it. -/
theorem detects_normalize_created : ∃ n out, sysmon? = some n ∧
    n.normalize ⟨[("UtcTime", .text "2024-05-01 10:00:00.5"), ("EventId", .scalar (.int 1)),
      ("Image", .text "C:\\Windows\\sc.exe"), ("CommandLine", .text "sc.exe start x")]⟩ = .ok out ∧
    ((serviceControlStart?.any fun a => a.detects out) = true ↔
      detectsServiceStart ⟨some .create, some "sc.exe", some "sc.exe start x"⟩ = true) := by
  let r : Event := ⟨[("UtcTime", .text "2024-05-01 10:00:00.5"), ("EventId", .scalar (.int 1)),
    ("Image", .text "C:\\Windows\\sc.exe"), ("CommandLine", .text "sc.exe start x")]⟩
  obtain ⟨n, hsysmon, hiff⟩ := detects_normalize_iff
  obtain ⟨m, hm, hn⟩ := exists_sysmon
  obtain rfl := Option.some.inj (hm.symm.trans hsysmon)
  obtain ⟨v, hv⟩ : ∃ v, (TimestampSource.mk "UtcTime" "%Y-%m-%d %H:%M:%S%.f").convert
      (.text "2024-05-01 10:00:00.5") = .ok v :=
    exists_of_isOk (by decide)
  have htimestamp : m.timestamp? r = .ok (some v) := by
    have ht : m.timestamp = some ⟨"UtcTime", "%Y-%m-%d %H:%M:%S%.f"⟩ := hn.timestamp
    rw [Normalizer.timestamp?, ht]
    exact map_eq_ok.mpr ⟨v, hv, rfl⟩
  have hnormalize : m.normalize r = .ok ((m.base r).writeAll (m.assignments r (some v))) :=
    bind_eq_ok.mpr ⟨some v, htimestamp, rfl⟩
  have hrecord : createdProcess (some "C:\\Windows\\sc.exe") (some "sc.exe start x") =
      ⟨some .create, some "sc.exe", some "sc.exe start x"⟩ := by
    decide
  have hselects :
      ((Query.readCondition? "EventId == 1").toOption.any fun q => q.selects r) = true := by
    decide +kernel
  have hdetects := hiff r _ (some "C:\\Windows\\sc.exe") (some "sc.exe start x") hnormalize rfl rfl
  rw [hrecord] at hdetects
  refine ⟨m, _, hsysmon, hnormalize,
    hdetects.trans ⟨fun h => h.2.2, fun h => ⟨Or.inr ?_, hselects, h⟩⟩⟩
  intro name hname
  cases hname

end Vigil.Library
