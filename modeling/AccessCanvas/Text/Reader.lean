/-!
Readers: each takes a value off the front of a text or reports a fault. A reader that succeeds
leaves a shorter text, so reading one value after another comes to an end.
-/

namespace AccessCanvas.Text

theorem exists_of_map_eq_ok {change : α → β} {attempt : Except fault α} {result : β}
    (success : attempt.map change = .ok result) :
    ∃ source, attempt = .ok source ∧ change source = result := by
  cases attempt with
  | error problem => simp [Except.map] at success
  | ok source =>
    simp only [Except.map, Except.ok.injEq] at success
    exact ⟨source, rfl, success⟩

structure Reader (fault value : Type) where
  run : List Char → Except fault (value × List Char)
  consumes : ∀ {text : List Char} {result : value} {rest : List Char},
    run text = .ok (result, rest) → rest.length < text.length

namespace Reader

def map (change : α → β) (reader : Reader fault α) : Reader fault β where
  run text :=
    match reader.run text with
    | .error problem => .error problem
    | .ok (value, rest) => .ok (change value, rest)
  consumes success := by
    split at success
    · cases success
    · next found =>
      simp only [Except.ok.injEq, Prod.mk.injEq] at success
      rw [← success.2]
      exact reader.consumes found

end Reader

end AccessCanvas.Text
