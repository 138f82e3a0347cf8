import Runbook.Proofs.Template.Laws

/-!
# Resolving twice

The result of resolving a template is a template again.  As long as no opening
brace is brought in, its tokens are those that have been kept: none arises
where literal text, replaced text and kept tokens meet.  So it is laid out part
by part as the template was, and resolving it once more changes nothing.
-/

namespace Runbook.Template

/-- No text that is put in the place of a reference has an opening brace. -/
def BringsNoBrace (bindings : Variables) (text : String) : Prop :=
  ∀ body reference, HasToken text.toList body →
    Reference.read? (String.ofList body) = some reference →
    '{' ∉ reference.replacement bindings

/-- A part brings in no brace when it is resolved. -/
def Part.bringsNoBrace (bindings : Variables) : Part → Bool
  | .token body =>
    (Reference.read? (String.ofList body)).all fun reference =>
      !(reference.replacement bindings).contains '{'
  | _ => true

theorem bringsNoBrace_iff {bindings : Variables} {text : String} :
    (∀ part ∈ scan text.toList, part.bringsNoBrace bindings = true) ↔
      BringsNoBrace bindings text := by
  simp only [BringsNoBrace, hasToken_iff]
  constructor
  · intro all body reference member reads
    have here := all _ member
    simpa [Part.bringsNoBrace, reads] using here
  · intro noBrace part member
    cases part with
    | plain character => rfl
    | unclosed rest => rfl
    | token body =>
        cases reads : Reference.read? (String.ofList body) with
        | none => simp [Part.bringsNoBrace, reads]
        | some reference =>
            simpa [Part.bringsNoBrace, reads] using
              noBrace body reference member reads

instance (bindings : Variables) (text : String) :
    Decidable (BringsNoBrace bindings text) :=
  decidable_of_iff _ bringsNoBrace_iff

/-- What stands in the result for a part: the characters that replace it, or
the part itself if it is kept. -/
def Part.settle (bindings : Variables) : Part → List Part
  | .token body =>
    match Reference.read? (String.ofList body) with
    | some reference => (reference.replacement bindings).map .plain
    | none => [.token body]
  | part => [part]

variable {bindings : Variables} {text : List Char} {parts : List Part}

/-- A part in the result stands for itself. -/
theorem Part.flatMap_settle (part : Part) :
    (part.settle bindings).flatMap (Part.resolve bindings) =
      part.resolve bindings := by
  cases part with
  | plain character => rfl
  | unclosed rest => exact List.flatMap_singleton _ _
  | token body =>
      cases reads : Reference.read? (String.ofList body) with
      | none => simp [settle, reads]
      | some reference => simp [settle, reads, flatMap_plain, resolve]

theorem unopened_of_noBrace (noBrace : '{' ∉ text) :
    ¬ opening <:+: text ++ ['{'] := by
  rw [opening, pair_infix_concat_iff, not_or]
  exact ⟨fun last => noBrace (List.mem_of_getLast? last),
    fun infixed => noBrace (infixed.subset (by simp))⟩

/-- The parts of the result are what stands for the parts of the template, one
after the other. -/
theorem Layout.scan_flatMap (layout : Layout text parts)
    (noBrace : ∀ body reference, .token body ∈ parts →
      Reference.read? (String.ofList body) = some reference →
      '{' ∉ reference.replacement bindings) :
    scan (parts.flatMap (Part.resolve bindings)) =
      parts.flatMap (Part.settle bindings) := by
  have settle_plain (text : List Char) :
      (text.map Part.plain).flatMap (Part.settle bindings) =
        text.map .plain := by
    rw [List.flatMap_map, List.map_eq_flatMap]
    rfl
  induction layout with
  | plain unopened =>
      rw [flatMap_plain, settle_plain, scan_of_unopened unopened]
  | @unclosed before rest unopened unended =>
      have same := (Layout.unclosed unopened unended).scan_eq
      rw [List.flatMap_append, List.flatMap_append, flatMap_plain,
        settle_plain]
      simpa [Part.resolve, Part.settle, opening] using same
  | @token before body rest parts unopened unended layout ih =>
      have again := ih fun other reference member =>
        noBrace other reference (by simp [member])
      rw [List.flatMap_append, List.flatMap_append, flatMap_plain,
        settle_plain, scan_append unopened, List.flatMap_cons,
        List.flatMap_cons, ← again]
      congr 1
      cases reads : Reference.read? (String.ofList body) with
      | none =>
          -- The token is kept, and what follows it is settled on its own.
          have kept := (@Layout.token [] _ _ _ (by decide) unended
            (layout_scan (parts.flatMap (Part.resolve bindings)))).scan_eq
          simpa [Part.resolve, Part.settle, reads, opening, closing] using kept
      | some reference =>
          have brings := noBrace body reference (by simp) reads
          simpa [Part.resolve, Part.settle, reads] using
            scan_append (unopened_of_noBrace brings) _

/-- Resolving a template a second time with the same variables changes nothing,
provided that no text put in the place of a reference has an opening brace.
That is so whatever else is in the template or in those texts: tokens that are
no references, braces that are never closed, longer runs of braces, and closing
braces anywhere. -/
theorem resolve_idempotent {bindings : Variables} {text : String}
    (noBrace : BringsNoBrace bindings text) :
    resolve bindings (resolve bindings text) = resolve bindings text := by
  have scanned := (layout_scan text.toList).scan_flatMap
    fun body reference member =>
      noBrace body reference (hasToken_iff.2 member)
  rw [resolve, resolve, String.toList_ofList]
  congr 1
  calc resolveChars bindings (resolveChars bindings text.toList)
      = ((scan text.toList).flatMap (Part.settle bindings)).flatMap
          (Part.resolve bindings) := by
        rw [resolveChars, resolveChars, scanned]
    _ = (scan text.toList).flatMap fun part =>
          (part.settle bindings).flatMap (Part.resolve bindings) :=
        List.flatMap_assoc
    _ = resolveChars bindings text.toList := by
        simp only [Part.flatMap_settle, resolveChars]

/-- A variable with closing braces in its text. -/
def closed : Variables := .ofList [("v", "a\x7d\x7db\"\x7d")]

/-- A run of three braces in front of what would be a reference, references
next to one another and to braces, a token that is none, and one that is never
closed. -/
def crowded : String :=
  "\x7b\x7b\x7bv\x7d\x7d\x7b\x7bv\x7d\x7d\x7b\x7bv:json\x7d\x7d\x7d\x7b" ++
    "\x7b\x7b a + b \x7d\x7d\x7d\x7b\x7bv.x\x7d\x7d\x7b \x7b\x7bv"

theorem resolve_idempotent_crowded :
    BringsNoBrace closed crowded ∧
      resolve closed crowded =
        "\x7b\x7b\x7bv\x7d\x7da\x7d\x7db\"\x7da\x7d\x7db\\\"\x7d\x7d\x7b" ++
          "\x7b\x7b a + b \x7d\x7d\x7d\x7b \x7b\x7bv" ∧
      resolve closed (resolve closed crowded) = resolve closed crowded := by
  have noBrace : BringsNoBrace closed crowded := by decide +kernel
  exact ⟨noBrace, by decide +kernel, resolve_idempotent noBrace⟩

end Runbook.Template
