import Mathlib.Data.List.Infix
import ScriptReplay.Delimiter
import ScriptReplay.Proofs.Pattern.Reading
import ScriptReplay.Proofs.Text.Pieces
import ScriptReplay.Proofs.Text.UpperCase

/-!
# Plain patterns

A pattern without metacharacters other than bars lists texts. It is read as the choice between them
(`parse?_plain`), and it matches a text as a whole when the text is one of them
(`matchesWhole_choice_iff`), in whatever order they stand and although one may begin another.
-/

namespace ScriptReplay.Pattern

/-- The characters with a meaning of their own in a pattern, apart from the bar. -/
def metacharacters : List Char :=
  ['\\', '.', '^', '$', '*', '+', '?', '\x7b', '\x7d', '[', ']', '(', ')']

/-- The pattern of a text whose characters stand for themselves. -/
def Node.ofText (text : List Char) : Node :=
  .ofSequence (text.map fun c => Reader.single {} c.toNat)

/-- The pattern of a choice between texts. -/
def Node.choice : List (List Char) → Node
  | [] => .empty
  | [text] => .ofText text
  | text :: rest => .alt (.ofText text) (choice rest)

theorem Node.choice_cons {texts : List (List Char)} (h : texts ≠ []) (text : List Char) :
    Node.choice (text :: texts) = .alt (.ofText text) (.choice texts) := by
  cases texts with
  | nil => exact absurd rfl h
  | cons next rest => rfl

theorem Node.ofSequence_cons {nodes : List Node} (h : nodes ≠ []) (node : Node) :
    Node.ofSequence (node :: nodes) = .cat node (.ofSequence nodes) := by
  cases nodes with
  | nil => exact absurd rfl h
  | cons next rest => rfl

/-! ## Reading a plain pattern -/

theorem Token.ofText_cons {c : Char} (h : c ≠ '\\') (text : List Char) :
    Token.ofText (c :: text) = .char c :: Token.ofText text := by
  simp [Token.ofText, h]

theorem Token.ofText_append {text : List Char} (h : '\\' ∉ text) (rest : List Char) :
    Token.ofText (text ++ rest) = text.map Token.char ++ Token.ofText rest := by
  induction text with
  | nil => rfl
  | cons c text ih =>
    rw [List.mem_cons, not_or] at h
    rw [List.cons_append, Token.ofText_cons (Ne.symm h.1), ih h.2, List.map_cons, List.cons_append]

theorem Token.ofText_plain {text : List Char} (h : '\\' ∉ text) :
    Token.ofText text = text.map Token.char := by
  simpa [Token.ofText] using Token.ofText_append h []

namespace Reader

variable {source : Source} {rest : List Token} {text : List Char} {done : List Piece} {first : Bool}

/-- A character that stands for itself becomes an item of the sequence. -/
theorem sequence_char {c : Char} (hc : c ∉ metacharacters) (hbar : c ≠ '|')
    (h : source.rest = .char c :: rest) (hrest : rest.head? ≠ some .dangling) (depth : Nat) :
    sequence {} first done (depth + 1) source =
      sequence {} first (.plain (single {} c.toNat) :: done) depth
        (source.behind (.char c) rest) := by
  simp only [metacharacters, List.mem_cons, List.not_mem_nil, or_false, not_or] at hc
  obtain ⟨-, hdot, hcaret, hdollar, hstar, hplus, hquestion, hbrace, -, hbracket, -, hopen,
    hclose⟩ := hc
  rw [sequence, bind_apply, peek_apply, h]
  simp only [List.head?_cons, hbar, hclose, Token.char.injEq, imp_self]
  rw [bind_apply, advance_apply h hrest]
  dsimp only
  rw [bind_apply, position_apply]
  simp [hdot, hcaret, hdollar, hstar, hplus, hquestion, hbrace, hbracket, hopen]

theorem head?_map_char_append (text : List Char) (hrest : rest.head? ≠ some .dangling) :
    (text.map Token.char ++ rest).head? ≠ some .dangling := by
  cases text with
  | nil => exact hrest
  | cons c text => simp

/-- Characters that stand for themselves are read one after another. -/
theorem sequence_plain (hplain : ∀ c ∈ text, c ∉ metacharacters ∧ c ≠ '|')
    (h : source.rest = text.map Token.char ++ rest) (hrest : rest.head? ≠ some .dangling)
    (depth : Nat) :
    sequence {} first done (depth + text.length) source =
      sequence {} first ((text.map fun c => Piece.plain (single {} c.toNat)).reverse ++ done) depth
        { source with rest, position := source.position + text.length } := by
  induction text generalizing source done with
  | nil =>
    obtain rfl : rest = source.rest := h.symm
    rfl
  | cons c text ih =>
    obtain ⟨⟨hc, hbar⟩, hlater⟩ := List.forall_mem_cons.1 hplain
    rw [List.length_cons, ← Nat.add_assoc,
      sequence_char hc hbar h (head?_map_char_append text hrest), ih hlater rfl]
    simp [Source.behind, Token.width, Token.text, Nat.add_assoc, Nat.add_comm 1]

/-- A sequence ends at the end of the pattern and at a bar. -/
theorem sequence_end (h : source.rest = [] ∨ ∃ rest, source.rest = .char '|' :: rest)
    (depth : Nat) :
    sequence {} first done (depth + 1) source =
      .ok (.ofSequence (done.reverse.map Piece.node), source) := by
  rw [sequence, bind_apply, peek_apply]
  rcases h with h | ⟨rest, h⟩ <;> rw [h] <;> rfl

/-- A text that stands for itself is read up to the end or to the next bar. -/
theorem sequence_ofText (hplain : ∀ c ∈ text, c ∉ metacharacters ∧ c ≠ '|')
    (h : source.rest = text.map Token.char ++ rest)
    (hrest : rest = [] ∨ ∃ later, rest = .char '|' :: later) {depth : Nat}
    (hdepth : text.length < depth) :
    sequence {} first [] depth source =
      .ok (.ofText text, { source with rest, position := source.position + text.length }) := by
  obtain ⟨more, rfl⟩ := Nat.exists_eq_add_of_lt hdepth
  have hhead : rest.head? ≠ some .dangling := by
    rcases hrest with rfl | ⟨later, rfl⟩ <;> simp
  have hplace : text.length + more + 1 = more + 1 + text.length := by omega
  rw [hplace, sequence_plain hplain h hhead, sequence_end hrest]
  simp [Node.ofText, Piece.node, Function.comp_def]

/-- Texts between bars are read as the choice between them. -/
theorem alternatives_choice {texts : List (List Char)} (hne : texts ≠ [])
    (hplain : ∀ text ∈ texts, ∀ c ∈ text, c ∉ metacharacters ∧ c ≠ '|')
    (hmode : source.mode = {}) (h : source.rest = (['|'].intercalate texts).map Token.char)
    {depth : Nat} (hdepth : source.rest.length + 2 ≤ depth) :
    ∃ position, alternatives {} true first depth source =
      .ok (.choice texts, { source with rest := [], position }) := by
  induction texts generalizing source depth first with
  | nil => exact absurd rfl hne
  | cons text texts ih =>
    obtain ⟨htext, hlater⟩ := List.forall_mem_cons.1 hplain
    obtain ⟨depth, rfl⟩ : ∃ more, depth = more + 1 := ⟨depth - 1, by omega⟩
    rw [alternatives, bind_apply]
    by_cases htexts : texts = []
    · subst htexts
      rw [List.intercalate_singleton] at h
      have hlength : source.rest.length = text.length := by rw [h, List.length_map]
      have hrest : source.rest = text.map Token.char ++ [] := by rw [h, List.append_nil]
      rw [sequence_ofText htext hrest (.inl rfl) (by omega)]
      dsimp only
      rw [bind_apply, accept_apply_of_ne (by simp)]
      exact ⟨_, rfl⟩
    · have hrest : source.rest = text.map Token.char ++
          .char '|' :: (['|'].intercalate texts).map Token.char := by
        rw [h, List.intercalate_cons_of_ne_nil htexts]
        simp
      have hlength := congrArg List.length hrest
      simp only [List.length_append, List.length_map, List.length_cons] at hlength
      have hhead : ((['|'].intercalate texts).map Token.char).head? ≠ some .dangling := by
        simp
      rw [sequence_ofText htext hrest (.inr ⟨_, rfl⟩) (by omega)]
      dsimp only
      rw [bind_apply, accept_apply_of_eq rfl hhead]
      generalize hnext : Source.behind _ (.char '|') _ = next
      have hmode' : next.mode = {} := by rw [← hnext]; exact hmode
      have htokens : next.rest = (['|'].intercalate texts).map Token.char := by rw [← hnext]; rfl
      obtain ⟨position, hread⟩ : ∃ position, alternatives {} true false depth next =
          .ok (.choice texts, { next with rest := [], position }) :=
        ih htexts hlater hmode' htokens (by rw [htokens, List.length_map]; omega)
      refine ⟨position, ?_⟩
      dsimp only
      rw [if_pos rfl, bind_apply, get_apply]
      dsimp only
      rw [if_pos rfl, hmode', bind_apply, hread, Node.choice_cons htexts, ← hnext]
      rfl

end Reader

theorem Node.flaw?_ofText (template : Bool) (text : List Char) :
    (Node.ofText text).flaw? template = none := by
  induction text with
  | nil => rfl
  | cons c text ih =>
    by_cases htext : text = []
    · rw [htext]; rfl
    · rw [Node.ofText, List.map_cons, Node.ofSequence_cons (by simpa using htext), Node.flaw?,
        ← Node.ofText, ih]
      rfl

theorem Node.flaw?_choice (template : Bool) (texts : List (List Char)) :
    (Node.choice texts).flaw? template = none := by
  induction texts with
  | nil => rfl
  | cons text texts ih =>
    by_cases htexts : texts = []
    · rw [htexts]; exact flaw?_ofText template text
    · rw [Node.choice_cons htexts, Node.flaw?, flaw?_ofText, ih]
      rfl

/-- A plain pattern is read as the choice between the texts it lists. -/
theorem parse?_plain {text : List Char} (hplain : ∀ c ∈ text, c ∉ metacharacters) :
    parse? text = .ok (.choice (text.splitOn '|')) := by
  have htokens : Token.ofText text = text.map Token.char :=
    Token.ofText_plain fun hmem => hplain _ hmem (by decide)
  have htexts : ∀ piece ∈ text.splitOn '|', ∀ c ∈ piece, c ∉ metacharacters ∧ c ≠ '|' := by
    intro piece hpiece c hc
    refine ⟨hplain c (Text.subset_of_mem_splitOn hpiece hc), ?_⟩
    rintro rfl
    exact Text.not_mem_of_mem_splitOn hpiece hc
  have hrest : text.map Token.char = (['|'].intercalate (text.splitOn '|')).map Token.char := by
    rw [List.intercalate_splitOn]
  obtain ⟨position, hread⟩ : ∃ position, Reader.alternatives {} true true (4 * text.length + 4)
      { rest := text.map Token.char } =
        .ok (.choice (text.splitOn '|'), { rest := [], position }) :=
    Reader.alternatives_choice (List.splitOn_ne_nil '|' text) htexts rfl hrest
      (by simp only [List.length_map]; omega)
  have hwhole : Reader.whole { rest := text.map Token.char } =
      .ok (.choice (text.splitOn '|'), { rest := [], position }) := by
    unfold Reader.whole
    rw [Reader.bind_apply, Reader.left_apply]
    dsimp only
    rw [List.length_map, Reader.bind_apply, hread]
    dsimp only
    rw [Reader.bind_apply, Reader.get_apply]
    dsimp only
    rw [Node.flaw?_choice]
    rfl
  unfold parse?
  rw [htokens]
  split
  · next later hdangling =>
    have hmem : Token.dangling ∈ text.map Token.char := by rw [hdangling]; exact List.mem_cons_self
    obtain ⟨c, -, hc⟩ := List.mem_map.1 hmem
    cases hc
  · rw [hwhole]
    rfl

/-! ## Matching a plain pattern -/

section Run

variable {cursor : Cursor} {k : Continuation}

theorem Cursor.forward_succ {c : Char} {rest : List Char} (h : cursor.after = c :: rest) (n : Nat) :
    (cursor.forward 1).forward n = cursor.forward (n + 1) := by
  simp [Cursor.forward, h]

theorem Node.run_single (c : Char) (cursor : Cursor) (k : Continuation) :
    (Reader.single {} c.toNat).run cursor k =
      if [c] <+: cursor.after then k (cursor.forward 1) else none := by
  obtain ⟨before, after, captures⟩ := cursor
  cases after with
  | nil => rfl
  | cons d after =>
    have hsame : d.toNat = c.toNat ↔ c = d := by rw [Char.toNat_inj, eq_comm]
    simp [Reader.single, Node.run, SetItem.holdsIn, SetItem.holds, hsame]

/-- A text that stands for itself matches where it begins what follows. -/
theorem Node.run_ofText (text : List Char) (cursor : Cursor) (k : Continuation) :
    (Node.ofText text).run cursor k =
      if text <+: cursor.after then k (cursor.forward text.length) else none := by
  induction text generalizing cursor with
  | nil => simp [Node.ofText, Node.ofSequence, Node.run, Cursor.forward]
  | cons c text ih =>
    have hstep : (Node.ofText (c :: text)).run cursor k =
        (Reader.single {} c.toNat).run cursor fun next => (Node.ofText text).run next k := by
      by_cases htext : text = []
      · subst htext; rfl
      · rw [Node.ofText, List.map_cons, Node.ofSequence_cons (by simpa using htext), Node.run]
        rfl
    rw [hstep, run_single]
    cases hafter : cursor.after with
    | nil => simp
    | cons d after =>
      rw [ih, Cursor.forward_succ hafter]
      by_cases hc : c = d <;> simp [Cursor.forward, hafter, hc]

theorem Node.isSome_run_choice {texts : List (List Char)} (hne : texts ≠ []) :
    ((Node.choice texts).run cursor k).isSome = true ↔
      ∃ text ∈ texts, text <+: cursor.after ∧ (k (cursor.forward text.length)).isSome = true := by
  induction texts with
  | nil => exact absurd rfl hne
  | cons text texts ih =>
    have hfirst : ((Node.ofText text).run cursor k).isSome = true ↔
        text <+: cursor.after ∧ (k (cursor.forward text.length)).isSome = true := by
      rw [run_ofText]
      split <;> simp [*]
    by_cases htexts : texts = []
    · subst htexts
      simpa [Node.choice] using hfirst
    · rw [Node.choice_cons htexts, Node.run, List.exists_mem_cons_iff, ← hfirst, ← ih htexts]
      cases (Node.ofText text).run cursor k <;> simp

end Run

/-- A choice between texts matches each of them as a whole, and nothing else. -/
theorem Node.matchesWhole_choice_iff {texts : List (List Char)} (hne : texts ≠ [])
    {text : List Char} : (Node.choice texts).matchesWhole text = true ↔ text ∈ texts := by
  unfold Node.matchesWhole
  rw [isSome_run_choice hne]
  constructor
  · rintro ⟨found, hfound, ⟨rest, rfl⟩, hend⟩
    obtain rfl : rest = [] := by simpa [Cursor.forward] using hend
    rwa [List.append_nil]
  · intro htext
    exact ⟨text, htext, List.prefix_refl text, by simp [Cursor.forward]⟩

end ScriptReplay.Pattern

namespace ScriptReplay.Delimiter

/-- The first text of a list between bars is what stands before the first bar. -/
theorem head?_splitOn_bar (text : List Char) :
    (text.splitOn '|').head? = some (text.takeWhile (· ≠ '|')) := by
  induction text with
  | nil => rfl
  | cons c text ih =>
    rw [List.splitOn_cons_eq_if_modifyHead, List.takeWhile_cons]
    by_cases hc : c = '|'
    · simp [hc]
    · obtain ⟨first, rest, hpieces⟩ := List.exists_cons_of_ne_nil (List.splitOn_ne_nil '|' text)
      rw [hpieces, List.head?_cons, Option.some.injEq] at ih
      simp [hc, hpieces, ih]

/-- Every pattern without metacharacters other than bars is accepted. The first of the texts that it
lists between bars is the literal, and the lines that are one of these texts in upper case are
matched, so an empty one matches the empty line alone. -/
theorem isLine_plain_iff (pattern : String)
    (hplain : ∀ c ∈ pattern.toList, c ∉ Pattern.metacharacters) :
    ∃ delimiter, ofPattern? pattern = .ok delimiter ∧
      (pattern.toList.splitOn '|').head? = some delimiter.literal ∧
      (∀ line, delimiter.isLine line = true ↔ Text.upper line ∈ pattern.toList.splitOn '|') ∧
      ∀ line, Text.upper line = [] ↔ line = [] := by
  have hparse := Pattern.parse?_plain hplain
  refine ⟨⟨pattern, .choice (pattern.toList.splitOn '|'), hparse⟩, ?_, head?_splitOn_bar _, ?_, ?_⟩
  · unfold ofPattern?
    split
    · next node hnode =>
      rw [hparse] at hnode
      exact congrArg _ (eq_of_pattern rfl)
    · next fault hfault =>
      rw [hparse] at hfault
      cases hfault
  · intro line
    exact Pattern.Node.matchesWhole_choice_iff (List.splitOn_ne_nil '|' _)
  · intro line
    cases line with
    | nil => exact ⟨fun _ => rfl, fun _ => rfl⟩
    | cons c line => simp [Text.upper, Text.upperChar_ne_nil]

/-- A text that begins another one, one that lower-case letters of other number spell, and the empty
one. -/
theorem isLine_plain_iff_prefix :
    ∃ delimiter, ofPattern? "A|AB|STRASSE|" = .ok delimiter ∧ delimiter.literal = ['A'] ∧
      delimiter.isLine "ab".toList = true ∧ delimiter.isLine "straße".toList = true ∧
      delimiter.isLine "abc".toList = false ∧ delimiter.isLine [] = true := by
  have hall : "A|AB|STRASSE|".toList.all (fun c => !Pattern.metacharacters.contains c) = true := by
    decide
  have hplain : ∀ c ∈ "A|AB|STRASSE|".toList, c ∉ Pattern.metacharacters := by
    intro c hc
    simpa using List.all_eq_true.1 hall c hc
  obtain ⟨delimiter, haccepted, hliteral, hline, -⟩ := isLine_plain_iff "A|AB|STRASSE|" hplain
  have htexts : "A|AB|STRASSE|".toList.splitOn '|' =
      [['A'], ['A', 'B'], "STRASSE".toList, []] := by decide
  rw [htexts] at hliteral hline
  refine ⟨delimiter, haccepted, (Option.some.inj hliteral).symm, ?_, ?_, ?_, ?_⟩
  · rw [hline]; decide
  · rw [hline]; decide
  · rw [← Bool.not_eq_true, hline]; decide
  · rw [hline]; decide

end ScriptReplay.Delimiter
