import ScriptReplay.Pattern.Source

/-!
# Steps of reading a pattern

What the single steps of a `Reader` do with a source: which token they take and which source they
leave. A source whose text does not end with a lone backslash is never refused by such a step.
-/

namespace ScriptReplay.Pattern

/-- The source behind its first token. -/
def Source.behind (source : Source) (token : Token) (rest : List Token) : Source :=
  { source with rest := rest, position := source.position + token.width }

namespace Reader

variable {α β : Type} {source : Source} {token : Token} {rest : List Token}

theorem bind_apply (x : Reader α) (f : α → Reader β) (source : Source) :
    (x >>= f) source = match x source with
      | .ok (a, next) => f a next
      | .error fault => .error fault := by
  change (x source >>= fun found => f found.1 found.2) = _
  cases x source <;> rfl

theorem pure_apply (a : α) (source : Source) : (pure a : Reader α) source = .ok (a, source) := rfl

theorem get_apply (source : Source) : (get : Reader Source) source = .ok (source, source) := rfl

theorem peek_apply (source : Source) : peek source = .ok (source.rest.head?, source) := rfl

theorem position_apply (source : Source) : position source = .ok (source.position, source) := rfl

theorem left_apply (source : Source) : left source = .ok (source.rest.length, source) := rfl

theorem advance_apply (h : source.rest = token :: rest) (hrest : rest.head? ≠ some .dangling) :
    advance source = .ok ((), source.behind token rest) := by
  obtain ⟨tokens⟩ := source
  dsimp only at h
  subst h
  match rest, hrest with
  | [], _ => rfl
  | .dangling :: _, hrest => exact absurd rfl hrest
  | .char _ :: _, _ => rfl
  | .escape _ :: _, _ => rfl

theorem accept_apply_of_eq {c : Char} (h : source.rest = .char c :: rest)
    (hrest : rest.head? ≠ some .dangling) :
    accept c source = .ok (true, source.behind (.char c) rest) := by
  unfold accept
  rw [bind_apply, peek_apply, h]
  dsimp only [List.head?_cons]
  rw [if_pos (beq_self_eq_true _), bind_apply, advance_apply h hrest]
  rfl

theorem accept_apply_of_ne {c : Char} (h : source.rest.head? ≠ some (.char c)) :
    accept c source = .ok (false, source) := by
  unfold accept
  rw [bind_apply, peek_apply]
  dsimp only
  rw [if_neg (by simpa using h)]
  rfl

end Reader

end ScriptReplay.Pattern
