import Vigil.Proofs.Query.Identifiers
import Vigil.Proofs.Query.Reading
import Vigil.Proofs.Query.Trees

/-! # Rendering conditions

What is written for a condition is read as the same condition.

* `spells_compare`, `spells_member`: comparisons and lists, whatever their literals are written as;
* `exists_leaf_spells`: a test is written as a leaf of the grammar that compiles to it;
* `exists_spells_derives`: a condition is written as tokens that the grammar derives, when its tests
  are;
* `read_render`: a condition that has been read, with no character in its texts that the lexer has
  no escape for, is read again from its rendering. -/

namespace Vigil.Query

open Vigil.Text

variable {α : Type} {c : Condition} {t : Test} {l : Leaf} {ts us : List Token} {cs : List Char}
  {field : String}

/-! ### Lists -/

/-- The texts after the first of a list, as they are written. -/
def separated (texts : List String) : List Char := texts.flatMap fun s => ',' :: ' ' :: s.toList

theorem toList_intercalate_cons (s : String) (texts : List String) :
    (", ".intercalate (s :: texts)).toList = s.toList ++ separated texts := by
  induction texts generalizing s with
  | nil => simp [separated]
  | cons u texts ih => simp [String.intercalate_cons_cons, ih, separated]

/-- Literals and the closing bracket after them, where something ends before these. -/
theorem Spells.append_listed {as : List α} {w : α → String} {v : α → Literal} (h : Spells cs us)
    (has : ∀ a ∈ as, Spells (w a).toList [.literal (v a)]) :
    Spells (cs ++ (separated (as.map w) ++ [')'])) (us ++ (listed (as.map v) ++ [.closing])) := by
  induction as generalizing cs us with
  | nil => exact h.append (by decide) spells_nil.closing
  | cons a as ih =>
    have ha : Spells (cs ++ ',' :: ' ' :: (w a).toList) (us ++ [.comma, .literal (v a)]) :=
      h.append (by decide) (has a List.mem_cons_self).blank.comma
    have hrest := ih ha fun b hb => has b (List.mem_cons_of_mem a hb)
    simpa [separated, listed] using hrest

/-! ### Leaves -/

theorem ofName?_render (call : Call) : Call.ofName? call.render = some call := by
  obtain ⟨function, cased⟩ := call
  cases function <;> cases cased <;> decide

theorem isStem_name (f : Function) : isStem f.name.toList = true := by
  cases f <;> decide

theorem isIdentifier_render (call : Call) : IsIdentifier call.render := by
  obtain ⟨f, cased⟩ := call
  constructor
  · cases cased with
    | true => exact Or.inl (isStem_name f)
    | false => exact Or.inr ⟨f.name.toList, String.toList_append, isStem_name f⟩
  · cases f <;> cases cased <;> decide

theorem spells_memberWord (cased : Bool) :
    Spells (memberWord cased).toList [.member cased] := by
  cases cased with
  | true =>
    have hin : IsWord "in".toList := Or.inl (by decide)
    exact spells_word hin
  | false =>
    have hin : IsWord "in~".toList := Or.inr ⟨"in".toList, rfl, by decide⟩
    exact spells_word hin

/-- A comparison with what a literal is written as. -/
theorem spells_compare {w : String} {value : Literal} (comparison : Comparison)
    (hfield : IsIdentifier field) (hw : Spells w.toList [.literal value]) :
    Spells (field ++ " " ++ comparison.sign ++ " " ++ w).toList
      (Leaf.compare field comparison value).tokens := by
  have hspells := (spells_identifier hfield).append (d := ' ') (by decide)
    (hw.blank.comparison comparison).blank
  simpa [Leaf.tokens] using hspells

/-- A list of what literals are written as. -/
theorem spells_member {a : α} {as : List α} {w : α → String} {v : α → Literal} (cased : Bool)
    (hfield : IsIdentifier field) (hw : ∀ b ∈ a :: as, Spells (w b).toList [.literal (v b)]) :
    Spells (field ++ " " ++ memberWord cased ++ " (" ++ ", ".intercalate ((a :: as).map w) ++
      ")").toList (Leaf.member field cased (v a) (as.map v)).tokens := by
  obtain ⟨hfirst, hothers⟩ := List.forall_mem_cons.mp hw
  have hlist := (hfirst.append_listed hothers).opening.blank
  have hmember := ((spells_memberWord cased).append (d := ' ') (by decide) hlist).blank
  have hspells := (spells_identifier hfield).append (d := ' ') (by decide) hmember
  simp only [String.toList_append, List.map_cons, toList_intercalate_cons]
  simpa [Leaf.tokens] using hspells

/-- A test is written as a leaf that compiles to it. -/
theorem exists_leaf_spells (h : l.test? = some t)
    (hnames : ∀ name, .identifier name ∈ l.tokens → IsIdentifier name)
    (htexts : ∀ s, .literal (.text s) ∈ l.tokens → ∀ c ∈ s.toList, IsPlain c) :
    ∃ l' : Leaf, l'.test? = some t ∧ Spells t.render.toList l'.tokens := by
  have hliteral (v : Literal) (hv : .literal v ∈ l.tokens) : Spells v.render.toList [.literal v] :=
    spells_literal v fun s hs => htexts s (hs ▸ hv)
  cases l with
  | compare name comparison value =>
    obtain ⟨hfield, hform, -⟩ := Leaf.of_test? h rfl
    have hname : IsIdentifier name := hnames name (by simp [Leaf.tokens])
    have hvalue := hliteral value (by simp [Leaf.tokens])
    refine ⟨_, h, ?_⟩
    rw [Test.render, hfield, hform]
    exact spells_compare comparison hname hvalue
  | member name cased value values =>
    obtain ⟨hfield, hform, -⟩ := Leaf.of_test? h rfl
    have hname : IsIdentifier name := hnames name (by simp [Leaf.tokens])
    have hvalues (v : Literal) (hv : v ∈ value :: values) :=
      hliteral v (by simpa [Leaf.tokens, listed] using hv)
    have hspells := spells_member (v := id) cased hname hvalues
    rw [List.map_id] at hspells
    refine ⟨_, h, ?_⟩
    rw [Test.render, hfield, hform]
    exact hspells
  | call name field pattern patterns =>
    obtain ⟨call, hcall, hparts⟩ : ∃ call, Call.ofName? name = some call ∧
        (field, Form.call call (pattern :: patterns)) = (t.field, t.form) := by
      simpa [Leaf.test?_eq_some, Leaf.parts?] using h
    obtain ⟨hfield, hform⟩ := Prod.mk.inj hparts
    refine ⟨.call call.render field pattern patterns, ?_, ?_⟩
    · rw [Leaf.test?_eq_some, Leaf.parts?, ofName?_render, ← hparts]
      rfl
    have hname := spells_identifier (isIdentifier_render call)
    have hfirst := spells_identifier (hnames field (by simp [Leaf.tokens]))
    have hpatterns : ∀ p ∈ pattern :: patterns, Spells (quoted p).toList [.literal (.text p)] := by
      intro p hp
      exact hliteral (.text p) (by simpa [Leaf.tokens, listed] using hp)
    have hspells := hname.append (by decide) (hfirst.append_listed hpatterns).opening
    simp only [Test.render, ← hfield, ← hform, Form.render, String.toList_append,
      toList_intercalate_cons]
    simpa [Leaf.tokens] using hspells
  | option field chosen hfield hchosen hdot =>
    obtain ⟨htest, hform, -⟩ := Leaf.of_test? h rfl
    refine ⟨_, h, ?_⟩
    have hname := spells_identifier (hnames (field ++ "." ++ chosen) (by simp [Leaf.tokens]))
    simpa [Test.render, htest, hform, Form.render, Leaf.tokens] using hname

/-! ### Conditions -/

/-- Two texts with a word between them, in brackets. -/
theorem Spells.joined {ds word : List Char} {ws : List Token} (h : Spells cs ts)
    (hword : Spells word ws) (hds : Spells ds us) :
    Spells ('(' :: (cs ++ ' ' :: (word ++ ' ' :: (ds ++ [')']))))
      (.opening :: (ts ++ (ws ++ (us ++ [.closing])))) := by
  have hright := hds.append (by decide) spells_nil.closing
  have hmiddle := hword.append (by decide) hright.blank
  exact (h.append (by decide) hmiddle.blank).opening

/-- A condition is written as tokens that the grammar derives, if its tests are. -/
theorem exists_spells_derives (h : ∀ t ∈ c.tests, ∃ l : Leaf, l.test? = some t ∧
      Spells t.render.toList l.tokens) :
    ∃ ts, Spells c.render.toList ts ∧ Derives .negation ts c := by
  induction c with
  | constant b =>
    exact ⟨_, spells_literal (.boolean b) (by rintro s ⟨⟩), .plain ⟨.constant b, rfl, rfl⟩⟩
  | test t =>
    obtain ⟨l, hl, hspells⟩ := h t List.mem_cons_self
    exact ⟨_, hspells, .plain ⟨.leaf l, rfl, by simp [Derivation.condition?, hl]⟩⟩
  | negation c ih =>
    obtain ⟨ts, hspells, hderives⟩ := ih h
    have hnot : Spells "not".toList [.negation] := spells_word (Or.inl (by decide))
    have hinside := hspells.append (by decide) spells_nil.closing
    refine ⟨_, ?_, hderives.single.alone.brackets.plain.not⟩
    simpa [Condition.render] using hnot.append (d := ' ') (by decide) hinside.opening.blank
  | conjunction c d ihc ihd =>
    obtain ⟨ts, hc, hts⟩ := ihc fun t ht => h t (List.mem_append_left _ ht)
    obtain ⟨us, hd, hus⟩ := ihd fun t ht => h t (List.mem_append_right _ ht)
    have hand : Spells "and".toList [.conjunction] := spells_word (Or.inl (by decide))
    refine ⟨_, ?_, (hts.and hus.single).alone.brackets.plain⟩
    simpa [Condition.render] using hc.joined hand hd
  | disjunction c d ihc ihd =>
    obtain ⟨ts, hc, hts⟩ := ihc fun t ht => h t (List.mem_append_left _ ht)
    obtain ⟨us, hd, hus⟩ := ihd fun t ht => h t (List.mem_append_right _ ht)
    have hor : Spells "or".toList [.disjunction] := spells_word (Or.inl (by decide))
    refine ⟨_, ?_, (hts.single.or hus.single.alone).brackets.plain⟩
    simpa [Condition.render] using hc.joined hor hd

/-- **Rendering.** A condition that has been read is read again from its rendering: the same tree,
with the same tests in it. Where a text has a character that is quoted by an escape that the lexer
does not know, the rendering has another text in its place. -/
theorem read_render {text : List Char} (hts : tokens? text = .ok ts) (hc : condition? ts = .ok c)
    (htexts : ∀ s, .literal (.text s) ∈ ts → ∀ ch ∈ s.toList, IsPlain ch) :
    ∃ us, tokens? c.render.toList = .ok us ∧ condition? us = .ok c := by
  obtain ⟨d, rfl, hd⟩ := derives_of_condition? hc
  have htests : ∀ t ∈ c.tests, ∃ l : Leaf, l.test? = some t ∧ Spells t.render.toList l.tokens := by
    intro t ht
    obtain ⟨l, hl, htest⟩ := Derivation.exists_leaf_of_mem_tests hd ht
    refine exists_leaf_spells htest ?_ ?_
    · intro name hname
      exact isIdentifier_of_mem_tokens hts (Derivation.mem_tokens_of_mem_leaves hl hname)
    · intro s hs
      exact htexts s (Derivation.mem_tokens_of_mem_leaves hl hs)
  obtain ⟨us, hus, hderives⟩ := exists_spells_derives htests
  exact ⟨us, tokens?_of_spells hus, condition?_of_derives hderives.single.alone⟩

/-- A condition with brackets that it does not need, and a text with a quote in it. -/
theorem read_render_quote : ∃ ts c us,
    tokens? "not (a.b) and (x in (007, \"\\\"\"))".toList = .ok ts ∧ condition? ts = .ok c ∧
      tokens? c.render.toList = .ok us ∧ condition? us = .ok c := by
  let ts : List Token := [.negation, .opening, .identifier "a.b", .closing, .conjunction, .opening,
    .identifier "x", .member true, .opening, .literal (.integer 7), .comma, .literal (.text "\""),
    .closing, .closing]
  have hts : tokens? "not (a.b) and (x in (007, \"\\\"\"))".toList = .ok ts := by
    rw [← toOption_eq_some]
    decide +kernel
  obtain ⟨c, hc⟩ : ∃ c, condition? ts = .ok c := exists_of_isOk (by decide +kernel)
  have htexts : ∀ s, .literal (.text s) ∈ ts → ∀ ch ∈ s.toList, IsPlain ch := by
    intro s hs
    obtain rfl : s = "\"" := by simpa [ts] using hs
    exact fun ch hch => Or.inr (by simp_all)
  obtain ⟨us, hus, hread⟩ := read_render hts hc htexts
  exact ⟨ts, c, us, hts, hc, hus, hread⟩

end Vigil.Query
