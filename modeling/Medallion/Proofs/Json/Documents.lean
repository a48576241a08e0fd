import Medallion.Json.Document
import Medallion.Proofs.Json.Tokens

/-!
# Reading a written value

Reading the text of a value gives the document of the value (`parse?_render`).  The tokens
of a value start a value wherever the parser is, and leave it behind that value with the
same containers open (`Parser.Starts`).

So a value can be told from its text, up to what its document says (`ofJson_of_render`).
-/

namespace Medallion

open Document (ofJson ofItems ofMembers)

namespace Parser

theorem foldlM_of_step {s s' : State} {t : Token} (hstep : step s t = some s')
    (ts : List Token) : (t :: ts).foldlM step s = ts.foldlM step s' := by
  rw [List.foldlM_cons, hstep]
  rfl

/-- Some tokens are those of a document: read where a value starts, they leave the parser
behind the document.  The first one does not close an array. -/
def Starts (ts : List Token) (d : Document) : Prop :=
  ∃ t rest, ts = t :: rest ∧ t ≠ .closeBracket ∧
    ∀ frames, ∃ s, value? frames t = some s ∧
      rest.foldlM step s = some ⟨frames, .after d⟩

namespace Starts

variable {ts : List Token} {d : Document}

theorem single {t : Token} (ht : t ≠ .closeBracket)
    (hvalue : ∀ frames, value? frames t = some ⟨frames, .after d⟩) : Starts [t] d :=
  ⟨t, [], rfl, ht, fun frames => ⟨_, hvalue frames, rfl⟩⟩

theorem foldlM_value (hstarts : Starts ts d) (frames : List Frame) :
    ts.foldlM step ⟨frames, .value⟩ = some ⟨frames, .after d⟩ := by
  obtain ⟨t, rest, rfl, _, hrest⟩ := hstarts
  obtain ⟨s, hvalue, hfold⟩ := hrest frames
  have hstep : step ⟨frames, .value⟩ t = some s := hvalue
  rw [foldlM_of_step hstep]
  exact hfold

theorem foldlM_itemOrEnd (hstarts : Starts ts d) (frames : List Frame) :
    ts.foldlM step ⟨frames, .itemOrEnd⟩ = some ⟨.array [] :: frames, .after d⟩ := by
  obtain ⟨t, rest, rfl, hclose, hrest⟩ := hstarts
  obtain ⟨s, hvalue, hfold⟩ := hrest (.array [] :: frames)
  have hstep : step ⟨frames, .itemOrEnd⟩ t = some s := by
    rw [← hvalue]
    cases t <;> first | rfl | contradiction
  rw [foldlM_of_step hstep]
  exact hfold

end Starts

mutual

theorem starts_tokens : (j : Json) → Starts j.tokens (ofJson j)
  | .null => .single (by simp) fun _ => rfl
  | .bool _ => .single (by simp) fun _ => rfl
  | .number _ => .single (by simp) fun _ => rfl
  | .text _ => .single (by simp) fun _ => rfl
  | .array [] => ⟨_, _, rfl, by simp, fun _ => ⟨_, rfl, rfl⟩⟩
  | .object [] => ⟨_, _, rfl, by simp, fun _ => ⟨_, rfl, rfl⟩⟩
  | .array (item :: items) => by
    refine ⟨.openBracket, item.tokens ++ (Json.itemTokens items ++ [.closeBracket]), ?_,
      by simp, fun frames => ⟨_, rfl, ?_⟩⟩
    · simp [Json.tokens]
    · rw [List.foldlM_append, (starts_tokens item).foldlM_itemOrEnd frames]
      exact foldlM_items items frames [] (ofJson item)
  | .object ((name, value) :: members) => by
    refine ⟨.openBrace, .text (some name) :: .colon ::
      (value.tokens ++ (Json.memberTokens members ++ [.closeBrace])), ?_, by simp,
      fun frames => ⟨_, rfl, ?_⟩⟩
    · simp [Json.tokens]
    · have hname : step ⟨frames, .nameOrEnd⟩ (.text (some name)) =
          some ⟨frames, .colon [] (some name)⟩ := rfl
      have hcolon : step ⟨frames, .colon [] (some name)⟩ .colon =
          some ⟨.object [] (some name) :: frames, .value⟩ := rfl
      rw [foldlM_of_step hname, foldlM_of_step hcolon, List.foldlM_append,
        (starts_tokens value).foldlM_value]
      exact foldlM_members members frames [] (some name) (ofJson value)

/-- The items behind the first one, up to the end of the array. -/
theorem foldlM_items : (items : List Json) → (frames : List Frame) →
    (done : List Document) → (d : Document) →
      (Json.itemTokens items ++ [Token.closeBracket]).foldlM step
        ⟨.array done :: frames, .after d⟩ =
          some ⟨frames, .after (.array (done.reverse ++ d :: ofItems items))⟩
  | [], frames, done, d => by
    have hclose : step ⟨.array done :: frames, .after d⟩ .closeBracket =
        some ⟨frames, .after (.array (d :: done).reverse)⟩ := rfl
    rw [Json.itemTokens, List.nil_append, foldlM_of_step hclose, List.reverse_cons]
    rfl
  | item :: items, frames, done, d => by
    have hcomma : step ⟨.array done :: frames, .after d⟩ .comma =
        some ⟨.array (d :: done) :: frames, .value⟩ := rfl
    have htokens : Json.itemTokens (item :: items) ++ [Token.closeBracket] =
        .comma :: (item.tokens ++ (Json.itemTokens items ++ [.closeBracket])) := by
      simp [Json.itemTokens]
    rw [htokens, foldlM_of_step hcomma, List.foldlM_append, (starts_tokens item).foldlM_value,
      Option.bind_eq_bind, Option.bind_some,
      foldlM_items items frames (d :: done) (ofJson item)]
    simp [ofItems]

/-- The members behind the first one, up to the end of the object. -/
theorem foldlM_members : (members : List (String × Json)) → (frames : List Frame) →
    (done : List (Option String × Document)) → (name : Option String) → (d : Document) →
      (Json.memberTokens members ++ [Token.closeBrace]).foldlM step
        ⟨.object done name :: frames, .after d⟩ =
          some ⟨frames, .after (.object (done.reverse ++ (name, d) :: ofMembers members))⟩
  | [], frames, done, name, d => by
    have hclose : step ⟨.object done name :: frames, .after d⟩ .closeBrace =
        some ⟨frames, .after (.object ((name, d) :: done).reverse)⟩ := rfl
    rw [Json.memberTokens, List.nil_append, foldlM_of_step hclose, List.reverse_cons]
    rfl
  | (next, value) :: members, frames, done, name, d => by
    have hcomma : step ⟨.object done name :: frames, .after d⟩ .comma =
        some ⟨frames, .name ((name, d) :: done)⟩ := rfl
    have hname : step ⟨frames, .name ((name, d) :: done)⟩ (.text (some next)) =
        some ⟨frames, .colon ((name, d) :: done) (some next)⟩ := rfl
    have hcolon : step ⟨frames, .colon ((name, d) :: done) (some next)⟩ .colon =
        some ⟨.object ((name, d) :: done) (some next) :: frames, .value⟩ := rfl
    have htokens : Json.memberTokens ((next, value) :: members) ++ [Token.closeBrace] =
        .comma :: .text (some next) :: .colon ::
          (value.tokens ++ (Json.memberTokens members ++ [.closeBrace])) := by
      simp [Json.memberTokens]
    rw [htokens, foldlM_of_step hcomma, foldlM_of_step hname, foldlM_of_step hcolon,
      List.foldlM_append, (starts_tokens value).foldlM_value, Option.bind_eq_bind,
      Option.bind_some, foldlM_members members frames ((name, d) :: done) (some next) (ofJson value)]
    simp [ofMembers]

end

theorem ofTokens?_tokens (j : Json) : ofTokens? j.tokens = some (ofJson j) := by
  unfold ofTokens?
  rw [(starts_tokens j).foldlM_value []]
  rfl

end Parser

namespace Document

/-- Reading the text of a value gives the document of the value. -/
theorem parse?_render {j : Json} (hwhole : j.IsWhole) : parse? j.render = some (ofJson j) := by
  unfold parse? Json.render
  rw [String.toList_ofList, Json.tokens?_print 0 hwhole]
  exact Parser.ofTokens?_tokens j

theorem ofJson_of_render {j j' : Json} (hwhole : j.IsWhole) (hwhole' : j'.IsWhole)
    (h : j.render = j'.render) : ofJson j = ofJson j' := by
  have hread := parse?_render hwhole
  rw [h, parse?_render hwhole'] at hread
  exact (Option.some.inj hread).symm

end Document

end Medallion
