import Reckoner.Proofs.Expr.Language
import Reckoner.Proofs.Expr.Onward

/-! Parses that fail.

On a stream of tokens a parse is concluded in one of two ways (`Concludes`): it gives a construct
and no diagnostic, or it gives none and one diagnostic. That one is about the token which is
current when the parse ends, so whoever goes on knows where: all the tokens in front of it have
been passed, and it has not. This goes for every construct that can be asked for
(`constructs_conclude`), at whatever depth a parse fails. -/
namespace Reckoner

namespace Feed
variable {f g : Feed}

/-- There is a current token behind a request for one. -/
theorem current_of_next (next : f.next = (none, g)) : g.current.isSome = true := by
  unfold Feed.next at next
  split at next
  · cases next
    rfl
  · cases next
  · split at next
    · cases next
      rfl
    · cases next

/-- Requests on a stream pass its tokens, one after the other. -/
theorem Onward.passes (onward : f.Onward g) (stream : f.IsStream)
    (current : f.current.isSome = true) :
    g.IsStream ∧ g.current.isSome = true ∧ ∃ ts, f.Passes ts g := by
  induction onward with
  | refl => exact ⟨stream, current, [], .nil⟩
  | tail _ next ih =>
    obtain ⟨stream, current, ts, passes⟩ := ih
    obtain ⟨t, here⟩ := Option.isSome_iff_exists.mp current
    refine ⟨stream.behind next, current_of_next next, ts ++ [t], ?_⟩
    exact passes_append_iff.mpr ⟨_, passes, passes_singleton_iff.mpr ⟨here, next⟩⟩

end Feed

namespace Expr

namespace Outcome
variable {α : Type}

/-- The construct that a parse gives, if it gives one. -/
def value? : Outcome α → Option α
  | found value _ => some value
  | refused _ _ | stopped _ _ => none

/-- The feed that a parse leaves. -/
def rest : Outcome α → Feed
  | found _ rest | refused _ rest | stopped _ rest => rest

/-- The diagnostics that a parse makes. A fault of the source is none of its own. -/
def diagnostics : Outcome α → List Diagnostic
  | found _ _ | stopped _ _ => []
  | refused fault _ => [fault.diagnostic]

/-- A parse is concluded: with a construct and no diagnostic, or with no construct and one
diagnostic, which is about the current token. The tokens in front of that one have been
passed. -/
inductive Concludes (f : Feed) (x : Outcome α) : Prop where
  | found {ts value} : f.Passes ts x.rest → x.value? = some value → x.diagnostics = [] →
    Concludes f x
  | refused {ts t d what} : f.Passes ts x.rest → x.rest.current = some t → x.value? = none →
    x.diagnostics = [d] → d.location = t.location → d.message = what ++ ", found " ++ t.text →
    Concludes f x

end Outcome

open Outcome

/-- A diagnostic points at the token at fault. -/
theorem Fault.place_of_found {x : Fault} {t : Token} (h : x.found = some t) :
    x.diagnostic.location = t.location := by
  rw [diagnostic, place, h, Option.bind_some]

/-- A diagnostic ends in the token at fault. -/
theorem Fault.message_of_found {x : Fault} {t : Token} (h : x.found = some t) :
    ∃ what, x.diagnostic.message = what ++ ", found " ++ t.text := by
  have shown : x.foundText = t.text := by rw [foundText, h, Option.map_some, Option.getD_some]
  rw [← shown]
  exact ⟨_, rfl⟩

/-- A parse that moves on along a stream is concluded. -/
theorem Outcome.Onward.concludes {α : Type} {f : Feed} {x : Outcome α} (onward : Onward f x)
    (stream : f.IsStream) (current : f.current.isSome = true) : Concludes f x := by
  cases onward with
  | found onward =>
    obtain ⟨-, -, ts, passes⟩ := onward.passes stream current
    exact .found passes rfl rfl
  | refused onward fault =>
    obtain ⟨-, current, ts, passes⟩ := onward.passes stream current
    obtain ⟨t, here⟩ := Option.isSome_iff_exists.mp current
    rw [here] at fault
    obtain ⟨what, message⟩ := Fault.message_of_found fault
    exact .refused passes here rfl rfl (Fault.place_of_found fault) message
  | stopped onward broken =>
    obtain ⟨stream, -⟩ := onward.passes stream current
    obtain ⟨k, next, -⟩ := stream.next
    cases next.symm.trans broken

/-- **A parse fails with one diagnostic and leaves the token at fault**, or it succeeds with
none. -/
theorem constructs_conclude (ops : Operators) {f : Feed} (stream : f.IsStream)
    (current : f.current.isSome = true) :
    Concludes f (statement ops f).outcome ∧ Concludes f (definition ops f).outcome ∧
      Concludes f (declaration f).outcome ∧ Concludes f (bareExpression ops f).outcome ∧
      Concludes f (signature f).outcome ∧ Concludes f (expression ops f).outcome :=
  ⟨(statement_onward ops f).concludes stream current,
    (definition_onward ops f).concludes stream current,
    (declaration_onward f).concludes stream current,
    (bareExpression_onward ops f).concludes stream current,
    (signature_onward f).concludes stream current,
    (expression_moves_on ops f).concludes stream current⟩

/-- The stream of a definition with a number where its name should be. -/
def nameless : Feed where
  current := some ⟨.keyword .define, "def", none, some ⟨"<stdin>", 1, 1, 1⟩⟩
  ahead := [.ok ⟨.number, "1", some (.number 1), some ⟨"<stdin>", 1, 5, 5⟩⟩]

/-- A definition without a name is concluded: it fails at the number in place of the name, with a
diagnostic that points there. -/
theorem constructs_conclude_at_number : nameless.IsStream ∧ nameless.current.isSome = true ∧
    Concludes nameless (statement .standard nameless).outcome ∧
    (statement .standard nameless).outcome.diagnostics.map Diagnostic.location =
      [some ⟨"<stdin>", 1, 5, 5⟩] := by
  have stream : nameless.IsStream := ⟨by simp [nameless], none, rfl⟩
  have define : at? nameless (.keyword .define) = true := rfl
  refine ⟨stream, rfl, (constructs_conclude .standard stream rfl).1, ?_⟩
  rw [outcome_statement, if_pos define, outcome_definition]
  simp only [require, past, nameless, Feed.next, outcome_signature]
  rfl

end Expr

end Reckoner
