import Medallion.Json.Print
import Medallion.Json.Token
import Medallion.Proofs.Json.Numeral

/-!
# Reading the tokens of a written value

A written value is read back token by token (`tokens?_print`).  The lexer works one
character at a time, so the text is taken apart as it was put together.

Two things can be said about where the lexer stands behind a piece of text.  It is between
tokens (`Lexer.Clear`), or at least any character that is neither in a word nor in a number
would end the last token (`Lexer.Ending`): a number has no end of its own.  A piece of text
writes some tokens if it takes the lexer from one to the other (`Lexer.Takes`), and such
pieces can be put together (`Takes.append`).

Numbers have to be whole (`Json.IsWhole`): the last bit of a binary number can be lost.
-/

namespace Medallion

open Json (printChar printText printNumber newline)

namespace Lexer

open Token

/-! ## Pieces of text -/

/-- The lexer has read some tokens, the last one first, and is between tokens. -/
def Clear (s : State) (tokens : List Token) : Prop := s = ⟨tokens, .between⟩

/-- The lexer has read some tokens, of which the last one may still have to end. -/
structure Ending (s : State) (tokens : List Token) : Prop where
  finish : finish? s = some tokens
  step : ∀ c, inWord c = false → inNumeral c = false → Lexer.step s c = begin_ tokens c

/-- A piece of text writes some tokens. -/
def Takes (P Q : State → List Token → Prop) (cs : List Char) (ts : List Token) : Prop :=
  ∀ s tokens, P s tokens → ∃ s', cs.foldlM Lexer.step s = some s' ∧ Q s' (ts.reverse ++ tokens)

theorem Clear.ending {s : State} {tokens : List Token} (hclear : Clear s tokens) :
    Ending s tokens := by
  subst hclear
  exact ⟨rfl, fun _ _ _ => rfl⟩

namespace Takes

variable {P Q R : State → List Token → Prop} {cs cs' : List Char} {ts ts' : List Token}

theorem nil : Takes P P [] [] := fun s _ hs => ⟨s, rfl, hs⟩

theorem append (hfirst : Takes P Q cs ts) (hsecond : Takes Q R cs' ts') :
    Takes P R (cs ++ cs') (ts ++ ts') := by
  intro s tokens hs
  obtain ⟨mid, hmid, hq⟩ := hfirst s tokens hs
  obtain ⟨last, hlast, hr⟩ := hsecond mid _ hq
  refine ⟨last, ?_, ?_⟩
  · rw [List.foldlM_append, hmid]
    exact hlast
  · rwa [List.reverse_append, List.append_assoc]

/-- What can follow an unended token can follow any. -/
theorem of_clear (htakes : Takes Ending Q cs ts) : Takes Clear Q cs ts :=
  fun s tokens hs => htakes s tokens hs.ending

theorem to_ending (htakes : Takes P Clear cs ts) : Takes P Ending cs ts := by
  intro s tokens hs
  obtain ⟨s', hfold, hclear⟩ := htakes s tokens hs
  exact ⟨s', hfold, hclear.ending⟩

end Takes

/-- A character that ends the token before it, and what it starts. -/
theorem takes_cons {c : Char} {cs : List Char} {ts : List Token}
    (hword : inWord c = false) (hnumeral : inNumeral c = false)
    (hrest : ∀ tokens, ∃ s, begin_ tokens c = some s ∧
      cs.foldlM step s = some ⟨ts.reverse ++ tokens, .between⟩) :
    Takes Ending Clear (c :: cs) ts := by
  intro s tokens hs
  obtain ⟨s', hbegin, hfold⟩ := hrest tokens
  refine ⟨_, ?_, rfl⟩
  rw [List.foldlM_cons, hs.step c hword hnumeral, hbegin]
  exact hfold

theorem takes_mark {c : Char} {t : Token} (hword : inWord c = false)
    (hnumeral : inNumeral c = false)
    (hbegin : ∀ tokens, begin_ tokens c = some ⟨t :: tokens, .between⟩) :
    Takes Ending Clear [c] [t] :=
  takes_cons hword hnumeral fun tokens => ⟨_, hbegin tokens, rfl⟩

theorem takes_comma : Takes Ending Clear [','] [.comma] :=
  takes_mark (by decide) (by decide) fun _ => rfl

theorem takes_openBracket : Takes Ending Clear ['['] [.openBracket] :=
  takes_mark (by decide) (by decide) fun _ => rfl

theorem takes_closeBracket : Takes Ending Clear [']'] [.closeBracket] :=
  takes_mark (by decide) (by decide) fun _ => rfl

theorem takes_openBrace : Takes Ending Clear ['{'] [.openBrace] :=
  takes_mark (by decide) (by decide) fun _ => rfl

theorem takes_closeBrace : Takes Ending Clear ['}'] [.closeBrace] :=
  takes_mark (by decide) (by decide) fun _ => rfl

theorem foldlM_spaces (tokens : List Token) (n : Nat) :
    (List.replicate n ' ').foldlM step ⟨tokens, .between⟩ = some ⟨tokens, .between⟩ := by
  induction n with
  | zero => rfl
  | succ n ih =>
    rw [List.replicate_succ, List.foldlM_cons]
    exact ih

theorem takes_newline (level : Nat) : Takes Ending Clear (newline level) [] :=
  takes_cons (by decide) (by decide) fun tokens => ⟨_, rfl, foldlM_spaces tokens _⟩

/-- The colon behind a name has a blank behind it. -/
theorem takes_colon : Takes Ending Clear [':', ' '] [.colon] :=
  takes_cons (by decide) (by decide) fun _ => ⟨_, rfl, rfl⟩

/-! ## Strings -/

theorem hexValue?_hexDigit {n : Nat} (hn : n < 16) : hexValue? (Json.hexDigit n) = some n := by
  have hall : ∀ n < 16, hexValue? (Json.hexDigit n) = some n := by decide
  exact hall n hn

/-- A unit below the surrogates is a character of its own. -/
theorem join?_unit (c : Char) (hc : c.toNat < 0x20) (ps : List Piece) :
    join? (.unit c.toNat :: ps) = (join? ps).map (c :: ·) := by
  conv => lhs; unfold join?
  rw [if_neg (by omega), if_neg (by omega), Char.ofNat_toNat]

theorem foldlM_hex (tokens : List Token) (pieces : List Piece) {n : Nat} (hn : n < 0x20) :
    ['\\', 'u', '0', '0', Json.hexDigit (n / 16), Json.hexDigit (n % 16)].foldlM step
      ⟨tokens, .string pieces⟩ = some ⟨tokens, .string (.unit n :: pieces)⟩ := by
  have hfirst : hexValue? (Json.hexDigit (n / 16)) = some (n / 16) :=
    hexValue?_hexDigit (by omega)
  have hsecond : hexValue? (Json.hexDigit (n % 16)) = some (n % 16) :=
    hexValue?_hexDigit (by omega)
  have hlead : ['\\', 'u', '0', '0'].foldlM step ⟨tokens, .string pieces⟩ =
      some ⟨tokens, .hex pieces 2 0⟩ := rfl
  have hvalue : 16 * (n / 16) + n % 16 = n := by omega
  rw [show ['\\', 'u', '0', '0', Json.hexDigit (n / 16), Json.hexDigit (n % 16)] =
    ['\\', 'u', '0', '0'] ++ [Json.hexDigit (n / 16), Json.hexDigit (n % 16)] from rfl,
    List.foldlM_append, hlead]
  simp [step, hfirst, hsecond, hvalue]

/-- A written character is read as one piece, which stands for the character. -/
theorem foldlM_printChar (tokens : List Token) (pieces : List Piece) (c : Char) :
    ∃ p, (printChar c).foldlM step ⟨tokens, .string pieces⟩ =
        some ⟨tokens, .string (p :: pieces)⟩ ∧
      ∀ ps, join? (p :: ps) = (join? ps).map (c :: ·) := by
  unfold printChar
  split
  · exact ⟨.char '"', rfl, fun _ => rfl⟩
  · exact ⟨.char '\\', rfl, fun _ => rfl⟩
  · exact ⟨.char '\x08', rfl, fun _ => rfl⟩
  · exact ⟨.char '\x0C', rfl, fun _ => rfl⟩
  · exact ⟨.char '\n', rfl, fun _ => rfl⟩
  · exact ⟨.char '\r', rfl, fun _ => rfl⟩
  · exact ⟨.char '\t', rfl, fun _ => rfl⟩
  · -- neither escaped by a letter nor one of the two marks: what is left is split by
    -- whether it is a control character
    rename_i hquote hbackslash _ _ _ _ _
    split
    · rename_i hcontrol
      exact ⟨.unit c.toNat, foldlM_hex tokens pieces hcontrol, join?_unit c hcontrol⟩
    · rename_i hplain
      have hquote' : c ≠ '"' := hquote
      have hbackslash' : c ≠ '\\' := hbackslash
      refine ⟨.char c, ?_, fun _ => rfl⟩
      simp [step, hquote', hbackslash', hplain]

/-- The characters of a string are read as pieces that join to them. -/
theorem foldlM_printChars (tokens : List Token) (cs : List Char) (pieces : List Piece) :
    ∃ ps, (cs.flatMap printChar).foldlM step ⟨tokens, .string pieces⟩ =
        some ⟨tokens, .string (ps.reverse ++ pieces)⟩ ∧ join? ps = some cs := by
  induction cs generalizing pieces with
  | nil => exact ⟨[], rfl, rfl⟩
  | cons c cs ih =>
    obtain ⟨p, hp, hjoin⟩ := foldlM_printChar tokens pieces c
    obtain ⟨ps, hps, hcs⟩ := ih (p :: pieces)
    refine ⟨p :: ps, ?_, ?_⟩
    · rw [List.flatMap_cons, List.foldlM_append, hp]
      simpa using hps
    · rw [hjoin, hcs]
      rfl

theorem takes_text (s : String) : Takes Ending Clear (printText s) [.text (some s)] := by
  have htext : printText s = '"' :: (s.toList.flatMap printChar ++ ['"']) := rfl
  rw [htext]
  refine takes_cons (by decide) (by decide) fun tokens => ⟨⟨tokens, .string []⟩, rfl, ?_⟩
  obtain ⟨ps, hps, hjoin⟩ := foldlM_printChars tokens s.toList []
  rw [List.foldlM_append, hps]
  simp [step, ofPieces, hjoin]

/-! ## Words and numbers -/

/-- A word is read letter by letter, and ends at any character that is not a letter. -/
theorem takes_word {word : List Char} {t : Token} (hword : ofWord? word = some t)
    (hread : ∀ tokens, word.foldlM step ⟨tokens, .between⟩ =
      some ⟨tokens, .word word.reverse⟩) : Takes Clear Ending word [t] := by
  rintro _ tokens rfl
  refine ⟨_, hread tokens, ?_, fun c hletter _ => ?_⟩
  · simp [finish?, hword]
  · simp [step, hletter, hword]

theorem takes_null : Takes Clear Ending ['n', 'u', 'l', 'l'] [.null] :=
  takes_word rfl fun _ => rfl

theorem takes_true : Takes Clear Ending ['t', 'r', 'u', 'e'] [.bool true] :=
  takes_word rfl fun _ => rfl

theorem takes_false : Takes Clear Ending ['f', 'a', 'l', 's', 'e'] [.bool false] :=
  takes_word rfl fun _ => rfl

theorem foldlM_numeral (tokens : List Token) (read : List Char) {cs : List Char}
    (hcs : ∀ c ∈ cs, inNumeral c = true) :
    cs.foldlM step ⟨tokens, .numeral read⟩ = some ⟨tokens, .numeral (cs.reverse ++ read)⟩ := by
  induction cs generalizing read with
  | nil => rfl
  | cons c cs ih =>
    have hc : inNumeral c = true := hcs c List.mem_cons_self
    rw [List.foldlM_cons]
    simp only [step, hc, if_true, Option.bind_eq_bind, Option.bind_some]
    rw [ih (c :: read) fun d hd => hcs d (List.mem_cons_of_mem c hd)]
    simp

theorem inNumeral_of_mem {i : Int} {c : Char} (hc : c ∈ decimalText i) :
    inNumeral c = true := by
  unfold decimalText at hc
  split at hc
  · rcases List.mem_cons.mp hc with rfl | hc
    · decide
    · simp [inNumeral, isDigit_of_mem hc]
  · simp [inNumeral, isDigit_of_mem hc]

/-- The first character of a number is a digit or the sign. -/
theorem begin_decimalText (i : Int) :
    ∃ c cs, decimalText i = c :: cs ∧
      ∀ tokens, begin_ tokens c = some ⟨tokens, .numeral [c]⟩ := by
  have hbegin (c : Char) (hc : Decimal.isDigit c = true ∨ c = '-') (tokens : List Token) :
      begin_ tokens c = some ⟨tokens, .numeral [c]⟩ := by
    have hstart : (Decimal.isDigit c || c = '-') = true := by simpa using hc
    have hspace : isSpace c = false := by
      rcases hc with hdigit | rfl
      · by_contra hblank
        simp only [isSpace, Bool.not_eq_false, Bool.or_eq_true, decide_eq_true_eq] at hblank
        rcases hblank with ((rfl | rfl) | rfl) | rfl <;> exact absurd hdigit (by decide)
      · decide
    have hquote : c ≠ '"' := by
      rintro rfl
      exact absurd hc (by decide)
    unfold begin_
    rw [hspace, hstart, if_neg (by simp), if_neg hquote, if_pos rfl]
  unfold decimalText
  split
  · exact ⟨'-', _, rfl, hbegin '-' (.inr rfl)⟩
  · obtain ⟨c, cs, hcs⟩ := List.exists_cons_of_ne_nil (decimalDigits_ne_nil i.natAbs)
    refine ⟨c, cs, hcs, hbegin c (.inl (isDigit_of_mem (n := i.natAbs) ?_))⟩
    rw [hcs]
    exact List.mem_cons_self

theorem takes_integer {i : Int} (hwhole : (Number.integer i).IsWhole) :
    Takes Clear Ending (decimalText i) [.number (some (.integer i))] := by
  rintro _ tokens rfl
  have hnumeral : ofNumeral? (decimalText i) = some (.number (some (.integer i))) := by
    rw [ofNumeral?, Numeral.read?_decimalText, Option.map_some, Numeral.value?_whole hwhole]
  obtain ⟨c, cs, hcs, hbegin⟩ := begin_decimalText i
  refine ⟨⟨tokens, .numeral (decimalText i).reverse⟩, ?_, ?_, fun d _ hd => ?_⟩
  · rw [hcs, List.foldlM_cons]
    have hstep : step ⟨tokens, .between⟩ c = some ⟨tokens, .numeral [c]⟩ := hbegin tokens
    rw [hstep, Option.bind_eq_bind, Option.bind_some, foldlM_numeral]
    · simp
    · intro d hd
      apply inNumeral_of_mem (i := i)
      rw [hcs]
      exact List.mem_cons_of_mem c hd
  · simp [finish?, hnumeral]
  · simp [step, hd, hnumeral]

end Lexer

/-! ## Values -/

namespace Json

mutual

/-- Whether every number in a value is whole. -/
def IsWhole : Json → Prop
  | .number n => n.IsWhole
  | .array items => IsWholeItems items
  | .object members => IsWholeMembers members
  | .null | .bool _ | .text _ => True

def IsWholeItems : List Json → Prop
  | [] => True
  | item :: items => item.IsWhole ∧ IsWholeItems items

def IsWholeMembers : List (String × Json) → Prop
  | [] => True
  | (_, value) :: members => value.IsWhole ∧ IsWholeMembers members

end

mutual

/-- The tokens that write a value. -/
def tokens : Json → List Token
  | .null => [.null]
  | .bool b => [.bool b]
  | .number n => [.number (some n)]
  | .text s => [.text (some s)]
  | .array [] => [.openBracket, .closeBracket]
  | .array (item :: items) =>
    .openBracket :: tokens item ++ itemTokens items ++ [.closeBracket]
  | .object [] => [.openBrace, .closeBrace]
  | .object ((name, value) :: members) =>
    .openBrace :: .text (some name) :: .colon :: tokens value ++ memberTokens members ++
      [.closeBrace]

def itemTokens : List Json → List Token
  | [] => []
  | item :: items => .comma :: tokens item ++ itemTokens items

def memberTokens : List (String × Json) → List Token
  | [] => []
  | (name, value) :: members =>
    .comma :: .text (some name) :: .colon :: tokens value ++ memberTokens members

end

open Lexer

mutual

theorem takes_print (level : Nat) :
    (j : Json) → j.IsWhole → Takes Clear Ending (print level j) j.tokens
  | .null, _ => takes_null
  | .bool true, _ => takes_true
  | .bool false, _ => takes_false
  | .number (.integer _), hwhole => takes_integer (by simpa only [IsWhole] using hwhole)
  | .number (.real _), hwhole => by simp only [IsWhole, Number.IsWhole] at hwhole
  | .text s, _ => (takes_text s).of_clear.to_ending
  | .array [], _ => (takes_openBracket.of_clear.to_ending.append takes_closeBracket).to_ending
  | .array (item :: items), hwhole => by
    simp only [IsWhole, IsWholeItems] at hwhole
    -- piece by piece, in the order of the text
    have hopen := takes_openBracket.of_clear.to_ending.append (takes_newline (level + 1))
    have hitem := hopen.append (takes_print (level + 1) item hwhole.1)
    have hitems := hitem.append (takes_printItems (level + 1) items hwhole.2)
    have hclose := hitems.append ((takes_newline level).to_ending.append takes_closeBracket)
    simpa [print, tokens] using hclose.to_ending
  | .object [], _ => (takes_openBrace.of_clear.to_ending.append takes_closeBrace).to_ending
  | .object ((name, value) :: members), hwhole => by
    simp only [IsWhole, IsWholeMembers] at hwhole
    have hopen := takes_openBrace.of_clear.to_ending.append (takes_newline (level + 1))
    have hname := (hopen.to_ending.append (takes_text name)).to_ending.append takes_colon
    have hvalue := hname.append (takes_print (level + 1) value hwhole.1)
    have hmembers := hvalue.append (takes_printMembers (level + 1) members hwhole.2)
    have hclose := hmembers.append ((takes_newline level).to_ending.append takes_closeBrace)
    simpa [print, tokens] using hclose.to_ending

theorem takes_printItems (level : Nat) :
    (items : List Json) → IsWholeItems items →
      Takes Ending Ending (printItems level items) (itemTokens items)
  | [], _ => .nil
  | item :: items, hwhole => by
    simp only [IsWholeItems] at hwhole
    have hcomma := takes_comma.to_ending.append (takes_newline level)
    have hitem := hcomma.append (takes_print level item hwhole.1)
    have hitems := hitem.append (takes_printItems level items hwhole.2)
    simpa [printItems, itemTokens] using hitems

theorem takes_printMembers (level : Nat) :
    (members : List (String × Json)) → IsWholeMembers members →
      Takes Ending Ending (printMembers level members) (memberTokens members)
  | [], _ => .nil
  | (name, value) :: members, hwhole => by
    simp only [IsWholeMembers] at hwhole
    have hcomma := takes_comma.to_ending.append (takes_newline level)
    have hname := (hcomma.to_ending.append (takes_text name)).to_ending.append takes_colon
    have hvalue := hname.append (takes_print level value hwhole.1)
    have hmembers := hvalue.append (takes_printMembers level members hwhole.2)
    simpa [printMembers, memberTokens] using hmembers

end

/-- A written value is read back token by token. -/
theorem tokens?_print (level : Nat) {j : Json} (hwhole : j.IsWhole) :
    tokens? (print level j) = some j.tokens := by
  obtain ⟨s, hfold, hending⟩ := takes_print level j hwhole ⟨[], .between⟩ [] rfl
  unfold tokens?
  rw [hfold, Option.bind_eq_bind, Option.bind_some, hending.finish]
  simp

end Json

end Medallion
