import SearchStore.Proofs.Bulk.Lines

/-!
Bodies one behind the other. A body that is read comes first in what the whole is read as; a body with a
fault has the same fault whatever follows; and one that ends in an action without its payload takes the
next line for it. So a fault is reported on the physical line it is found on.
-/

set_option autoImplicit false

namespace SearchStore.Bulk

variable {index type : Option String} {n : Nat} {line : List Char} {e : Failure}

def noSource (kind : ActionKind) (n : Nat) : Failure := .malformedInput (.bulkNoSource kind n)

theorem refused_otherwise (refused : action index type n line = .error e) (kind : ActionKind) (m : Nat) :
    e ≠ noSource kind m := by
  rintro rfl
  rcases action_numbered refused with same | unnumbered
  · cases same
  · cases unnumbered

theorem payload_refused (refused : payload n line = .error e) : e = .malformedInput (.bulkSource n) := by
  rw [payload] at refused
  split at refused
  · cases refused
  · cases refused
    rfl

-- Where reading stands behind the last line of a body: at the end of an action, in want of the payload of
-- one, or at a fault before.
inductive Progress where
  | complete (xs : List Bulk.Action)
  | waiting (xs : List Bulk.Action) (a : Bulk.Action) (n : Nat)
  | stopped (e : Failure) (fault : ∀ kind n, e ≠ noSource kind n)

namespace Progress

def behind (a : Bulk.Action) : Progress → Progress
  | .complete xs => .complete (a :: xs)
  | .waiting xs b n => .waiting (a :: xs) b n
  | .stopped e fault => .stopped e fault

def resume (index type : Option String) : Progress → List (Nat × List Char) → Except Failure (List Bulk.Action)
  | .complete xs, second => (actions index type second).map (xs ++ ·)
  | .waiting _ a n, [] => .error (noSource a.kind n)
  | .waiting xs a _, (k, source) :: rest =>
      (payload k source).bind fun v =>
        (actions index type rest).map fun ys => xs ++ { a with source := some v } :: ys
  | .stopped e _, _ => .error e

theorem resume_behind (p : Progress) (a : Bulk.Action) (second : List (Nat × List Char)) :
    (p.behind a).resume index type second = (p.resume index type second).map (a :: ·) := by
  cases p with
  | complete xs =>
      rw [behind, resume, resume]
      cases actions index type second <;> rfl
  | waiting xs b n =>
      cases second with
      | nil => rfl
      | cons l rest =>
          rw [behind, resume, resume]
          cases payload l.1 l.2 with
          | error e => rfl
          | ok v =>
              simp only [Except.bind]
              cases actions index type rest <;> rfl
  | stopped e fault => rfl

variable {p : Progress} {xs : List Bulk.Action} {kind : ActionKind}

theorem complete_of_read (read : p.resume index type [] = .ok xs) : p = .complete xs := by
  cases p with
  | complete ys =>
      cases read
      exact congrArg complete (List.append_nil ys).symm
  | waiting ys a n => cases read
  | stopped e fault => cases read

theorem stopped_of_fault (failed : p.resume index type [] = .error e) (fault : ∀ kind n, e ≠ noSource kind n) :
    p = .stopped e fault := by
  cases p with
  | complete ys => cases failed
  | waiting ys a n =>
      cases failed
      exact absurd rfl (fault a.kind n)
  | stopped e' _ =>
      cases failed
      rfl

theorem waiting_of_error (failed : p.resume index type [] = .error (noSource kind n)) :
    ∃ xs a, p = .waiting xs a n ∧ a.kind = kind := by
  cases p with
  | complete ys => cases failed
  | waiting ys a m =>
      cases failed
      exact ⟨ys, a, rfl, rfl⟩
  | stopped e fault =>
      cases failed
      exact absurd rfl (fault kind n)

end Progress

open Progress

-- By induction on the lines: all that matters of them for those behind is where they leave the reader.
theorem actions_append (index type : Option String) (first : List (Nat × List Char)) :
    ∃ p : Progress, ∀ second, actions index type (first ++ second) = p.resume index type second := by
  induction first using lines_induction index type with
  | nothing =>
      refine ⟨.complete [], fun second => ?_⟩
      rw [List.nil_append, resume]
      cases actions index type second <;> rfl
  | refused n line rest e refused =>
      exact ⟨.stopped e (refused_otherwise refused), fun second => actions_refused refused⟩
  | bare n line rest a read bare ih =>
      obtain ⟨p, resumes⟩ := ih
      refine ⟨p.behind a, fun second => ?_⟩
      rw [List.cons_append, actions_bare read bare, resumes, resume_behind]
  | waiting n line a read takes =>
      refine ⟨.waiting [] a n, fun second => ?_⟩
      cases second with
      | nil => exact actions_waiting read takes
      | cons l rest => exact actions_filled read takes
  | filled n line k source rest a read takes ih =>
      obtain ⟨p, resumes⟩ := ih
      cases paid : payload k source with
      | error e =>
          have fault : ∀ kind n, e ≠ noSource kind n := by
            rintro kind n rfl
            cases payload_refused paid
          refine ⟨.stopped e fault, fun second => ?_⟩
          rw [List.cons_append, List.cons_append, actions_filled read takes, paid]
          rfl
      | ok v =>
          refine ⟨p.behind { a with source := some v }, fun second => ?_⟩
          rw [List.cons_append, List.cons_append, actions_filled read takes, paid, resumes, resume_behind]
          rfl

theorem fault_found {ls : List (Nat × List Char)} (failed : actions index type ls = .error e)
    (numbered : e.line? = some n) : ∃ before line after, ls = before ++ (n, line) :: after ∧
      actions index type (before ++ [(n, line)]) = .error e ∧
      ∀ e', actions index type before = .error e' →
        (∃ kind m, e' = noSource kind m) ∧ e = .malformedInput (.bulkSource n) := by
  induction ls using lines_induction index type with
  | nothing => cases failed
  | refused m line rest e' refused =>
      rw [actions_refused refused] at failed
      cases failed
      rcases action_numbered refused with rfl | unnumbered
      · cases numbered
        exact ⟨[], line, rest, rfl, actions_refused refused, fun _ sooner => by cases sooner⟩
      · rw [unnumbered] at numbered
        cases numbered
  | bare m line rest a read bare ih =>
      rw [actions_bare read bare] at failed
      obtain ⟨before, own, after, rfl, upTo, sooner⟩ := ih (error_of_map failed)
      refine ⟨(m, line) :: before, own, after, rfl, ?_, fun e' failed => ?_⟩
      · rw [List.cons_append, actions_bare read bare, upTo]
        rfl
      · rw [actions_bare read bare] at failed
        exact sooner e' (error_of_map failed)
  | waiting m line a read takes =>
      rw [actions_waiting read takes] at failed
      cases failed
      cases numbered
      exact ⟨[], line, [], rfl, actions_waiting read takes, fun _ sooner => by cases sooner⟩
  | filled m line k source rest a read takes ih =>
      rw [actions_filled read takes] at failed
      cases paid : payload k source with
      | error e' =>
          rw [paid] at failed
          cases failed
          obtain rfl := payload_refused paid
          cases numbered
          refine ⟨[(m, line)], source, rest, rfl, ?_, fun e' sooner => ?_⟩
          · rw [List.cons_append, List.nil_append, actions_filled read takes, paid]
            rfl
          · rw [actions_waiting read takes] at sooner
            cases sooner
            exact ⟨⟨a.kind, m, rfl⟩, rfl⟩
      | ok v =>
          rw [paid] at failed
          obtain ⟨before, own, after, rfl, upTo, sooner⟩ := ih (error_of_map failed)
          refine ⟨(m, line) :: (k, source) :: before, own, after, rfl, ?_, fun e' failed => ?_⟩
          · rw [List.cons_append, List.cons_append, actions_filled read takes, paid, upTo]
            rfl
          · rw [actions_filled read takes, paid] at failed
            exact sooner e' (error_of_map failed)

theorem parse_append (a b : String) (index type : Option String) : parse (a ++ "\n" ++ b) index type =
    actions index type (lines a ++ (lines b).map (lowerLine (lineCount a))) := by
  rw [parse, lines_append]

theorem fault_on_line {body : String} (failed : parse body index type = .error e) (numbered : e.line? = some n) :
    ∃ above line below, splitLines body.toList = above ++ line :: below ∧ n = above.length + 1 ∧
      parse (bodyOf (above ++ [line])) index type = .error e ∧
      ∀ e', parse (bodyOf above) index type = .error e' →
        (∃ kind m, e' = noSource kind m) ∧ e = .malformedInput (.bulkSource n) := by
  obtain ⟨before, found, after, parts, upTo, sooner⟩ := fault_found failed numbered
  obtain ⟨above, own, below, split, place, _, _, upper, whole⟩ := numbered_split parts
  have plain : ∀ line ∈ above ++ [own], '\n' ∉ line := by
    intro line member
    refine split_lines_plain body.toList line ?_
    rw [split]
    rcases List.mem_append.mp member with member | member
    · exact List.mem_append_left _ member
    · obtain rfl := List.mem_singleton.mp member
      exact List.mem_append_right _ (List.mem_cons_self ..)
  have plainAbove : ∀ line ∈ above, '\n' ∉ line := fun line member => plain line (List.mem_append_left _ member)
  refine ⟨above, own, below, split, by omega, ?_, ?_⟩
  · rw [parse, numbered_joined plain, whole, upTo]
  · rw [parse, numbered_joined plainAbove, upper]
    exact sooner

/-- Two bodies with a line break between them. Behind a body that is read the other one is read, or refused
with its fault so many lines further down; behind a fault nothing matters; and an action in want of its
payload takes the next line that is not blank. Whatever line is reported is the physical one. -/
theorem concatenated_bodies_parsed (a b : String) (index type : Option String) :
    (∀ xs, parse a index type = .ok xs → parse (a ++ "\n" ++ b) index type =
      ((parse b index type).map (xs ++ ·)).mapError (·.lowered (lineCount a))) ∧
    (∀ e, parse a index type = .error e → (∀ kind n, e ≠ noSource kind n) →
      parse (a ++ "\n" ++ b) index type = .error e) ∧
    (∀ kind n, parse a index type = .error (noSource kind n) → ∃ (xs : List Bulk.Action) (head : Bulk.Action),
      head.kind = kind ∧
      parse (a ++ "\n" ++ "null") index type = .ok (xs ++ [{ head with source := some .null }]) ∧
      (lines b = [] → parse (a ++ "\n" ++ b) index type = .error (noSource kind n)) ∧
      ∀ k source rest, lines b = (k, source) :: rest → parse (a ++ "\n" ++ b) index type =
        ((payload k source).bind fun v => (actions index type rest).map fun ys =>
          xs ++ { head with source := some v } :: ys).mapError (·.lowered (lineCount a))) ∧
    ∀ e n, parse a index type = .error e → e.line? = some n →
      ∃ above line below, splitLines a.toList = above ++ line :: below ∧ n = above.length + 1 ∧
        parse (bodyOf (above ++ [line])) index type = .error e ∧
        ∀ e', parse (bodyOf above) index type = .error e' →
          (∃ kind m, e' = noSource kind m) ∧ e = .malformedInput (.bulkSource n) := by
  obtain ⟨p, resumes⟩ := actions_append index type (lines a)
  have alone : parse a index type = p.resume index type [] := by
    rw [parse, ← resumes, List.append_nil]
  have both (c : String) : parse (a ++ "\n" ++ c) index type =
      p.resume index type ((lines c).map (lowerLine (lineCount a))) := by
    rw [parse_append, resumes]
  refine ⟨fun xs read => ?_, fun e failed fault => ?_, fun kind n failed => ?_, fun e n failed numbered =>
    fault_on_line failed numbered⟩
  · rw [alone] at read
    rw [both, complete_of_read read, resume, actions_lowered, parse]
    cases actions index type (lines b) <;> rfl
  · rw [alone] at failed
    rw [both, stopped_of_fault failed fault, resume]
  · rw [alone] at failed
    obtain ⟨xs, head, stands, same⟩ := waiting_of_error failed
    refine ⟨xs, head, same, ?_, fun blank => ?_, fun k source rest filled => ?_⟩
    · rw [both, stands]
      rfl
    · rw [both, stands, blank, List.map_nil, resume, same]
    · rw [both, stands, filled, List.map_cons, lowerLine, resume, payload_lowered, actions_lowered]
      cases payload k source with
      | error e => rfl
      | ok v => cases actions index type rest <;> rfl

def unfinishedBody : String := "\n\x7b\"create\":\x7b\"_id\":7\x7d\x7d"

def faultyRemainder : String := " \n1\nnot"

theorem unfinished_body_continued :
    parse unfinishedBody (some "a") (some "b") = .error (noSource .create 2) ∧ lineCount unfinishedBody = 2 ∧
      lines faultyRemainder = [(2, "1".toList), (3, "not".toList)] ∧
      parse (unfinishedBody ++ "\n" ++ faultyRemainder) (some "a") (some "b") =
        .error (.malformedInput (.bulkAction 5)) := by
  have failed : parse unfinishedBody (some "a") (some "b") = .error (noSource .create 2) := by decide +kernel
  have above : lineCount unfinishedBody = 2 := by decide
  have below : lines faultyRemainder = [(2, "1".toList), (3, "not".toList)] := by decide
  obtain ⟨xs, head, _, _, _, continued⟩ :=
    (concatenated_bodies_parsed unfinishedBody faultyRemainder (some "a") (some "b")).2.2.1 .create 2 failed
  refine ⟨failed, above, below, ?_⟩
  rw [continued _ _ _ below, above]
  rfl

end SearchStore.Bulk
