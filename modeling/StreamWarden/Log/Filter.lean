import StreamWarden.Log.Directive

/-!
# Filters of the log

A filter is written as directives between commas. For each record the directive
that says most about it decides, and of equals the last; a record that none is
about does not pass.

* `Filter.read` reads a filter, `Filter.allows` applies it.
* `allows_of_rank_le`: what passes a filter at one level passes at graver ones.
-/

namespace StreamWarden.Log

/-- A filter of the log. -/
structure Filter where
  directives : List Directive
  deriving DecidableEq, Repr

namespace Filter

/-- The filter that lets one level and graver ones through. -/
def ofLevel (l : Level) : Filter := { directives := [{ least? := some l }] }

/-- Reads a filter; one that says nothing lets errors through. The first directive
that cannot be read tells why the filter cannot. -/
def read (text : String) : Except Directive.Fault Filter := do
  let directives ←
    ((text.splitOn ",").filter (· ≠ "")).mapM fun d => Directive.read d.toList
  if directives = [] then return ofLevel .error
  return { directives }

/-- The filter in force where `text?` is asked for. Where nothing is, or something
malformed, it is the one for information; there is none where a word of the text
would begin or end within a character. -/
def inForce? (text? : Option String) : Option Filter :=
  match text?.map read with
  | some (.ok f) => some f
  | some (.error .splitCharacter) => none
  | some (.error .malformed) | none => some (ofLevel .info)

/-- The directive that decides: the one that says most, of equals the last. -/
def decisive? : List Directive → Option Directive
  | [] => none
  | d :: rest =>
    match decisive? rest with
    | some e => some (if e.isBelow d then d else e)
    | none => some d

/-- The directive that decides about a record. -/
def directiveFor? (f : Filter) (r : Record) : Option Directive :=
  decisive? (f.directives.filter (·.concerns r))

/-- A filter lets a record through. -/
def allows (f : Filter) (r : Record) : Bool :=
  (f.directiveFor? r).any (·.passes r.level)

theorem directiveFor?_congr {r s : Record} (ho : r.origin = s.origin) (hf : r.fields = s.fields)
    (f : Filter) : f.directiveFor? r = f.directiveFor? s := by
  have h : (fun d : Directive => d.concerns r) = fun d => d.concerns s := by
    funext d
    cases hc : d.condition <;>
      simp [Directive.concerns, Condition.holds, Condition.fieldNames, hc, ho, hf]
  simp only [directiveFor?, h]

theorem allows_of_rank_le {f : Filter} {r s : Record} (ho : r.origin = s.origin)
    (hf : r.fields = s.fields) (hl : r.level.rank ≤ s.level.rank) (h : f.allows r) :
    f.allows s := by
  simp only [allows, Directive.passes, Option.any_eq_true, decide_eq_true_eq] at h ⊢
  obtain ⟨d, hd, least, hleast, hrank⟩ := h
  exact ⟨d, directiveFor?_congr ho hf f ▸ hd, least, hleast, Nat.le_trans hrank hl⟩

end Filter

end StreamWarden.Log
