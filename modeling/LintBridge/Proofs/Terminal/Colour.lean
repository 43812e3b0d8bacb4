import LintBridge.Proofs.Terminal.Console
import Mathlib.Data.List.Perm.Subperm

/-!
Colours, and the consoles that messages are written on.

A message in colours and one without them differ in nothing but codes (`withoutColours_written`).
Whether a message has codes depends on its console, and the console on the terminal that there was
when it was made; what is left without the codes depends on neither. Where the terminal stays what
it is, the consoles made so far are those that would be made now (`MadeAt`), so that each message is
written as if it were the only one (`colours_leave_texts`).
-/

namespace LintBridge.Terminal

variable {tone : Tone} {emoji coloured terminal : Bool} {message : String} {consoles : Consoles}

/-! ### Codes -/

/-- The code that switches the colour of a message on. -/
def startCode (tone : Tone) : List Char :=
  ("\x1b[" ++ tone.colour ++ "m").toList

/-- The code that switches a colour off. -/
def endCode : List Char :=
  "\x1b[0m".toList

/-- The codes for colours. -/
def codes : List (List Char) :=
  [startCode .good, startCode .caution, startCode .bad, endCode]

/-- A text without the codes for colours, where its first `skipped` characters belong to one. -/
def dropCodes : (skipped : Nat) → List Char → List Char
  | _, [] => []
  | skipped + 1, _ :: rest => dropCodes skipped rest
  | 0, c :: rest =>
      match codes.find? (·.isPrefixOf (c :: rest)) with
      | some code => dropCodes (code.length - 1) rest
      | none => c :: dropCodes 0 rest

/-- A text without the codes for colours. -/
def withoutColours (text : String) : String :=
  String.ofList (dropCodes 0 text.toList)

theorem startCode_eq (tone : Tone) :
    startCode tone = '\x1b' :: '[' :: (tone.colour ++ "m").toList := by
  simp [startCode]

theorem startCode_mem_codes (tone : Tone) : startCode tone ∈ codes := by
  cases tone <;> simp [codes]

theorem exists_code_eq {code : List Char} (h : code ∈ codes) : ∃ rest, code = '\x1b' :: rest := by
  simp only [codes, List.mem_cons, List.not_mem_nil, or_false] at h
  rcases h with rfl | rfl | rfl | rfl
  · exact ⟨_, startCode_eq .good⟩
  · exact ⟨_, startCode_eq .caution⟩
  · exact ⟨_, startCode_eq .bad⟩
  · exact ⟨_, rfl⟩

theorem dropCodes_code {code : List Char} (h : code ∈ codes) (rest : List Char) :
    dropCodes 0 (code ++ rest) = dropCodes 0 rest := by
  simp only [codes, List.mem_cons, List.not_mem_nil, or_false] at h
  rcases h with rfl | rfl | rfl | rfl <;> rfl

/-- Only the character that starts a code can be left out. -/
theorem dropCodes_append_of_not_mem {cs : List Char} (h : '\x1b' ∉ cs) (rest : List Char) :
    dropCodes 0 (cs ++ rest) = cs ++ dropCodes 0 rest := by
  induction cs with
  | nil => rfl
  | cons c cs ih =>
    obtain ⟨hc, hcs⟩ := not_or.mp (mt List.mem_cons.mpr h)
    have hnone : codes.find? (·.isPrefixOf (c :: (cs ++ rest))) = none := by
      apply List.find?_eq_none.mpr
      intro code hcode hprefix
      obtain ⟨body, rfl⟩ := exists_code_eq hcode
      exact hc (List.cons_prefix_cons.mp (List.isPrefixOf_iff_prefix.mp hprefix)).1
    rw [List.cons_append, dropCodes, hnone, ih hcs, List.cons_append]

theorem dropCodes_colourPart {part : List Char} (h : '\x1b' ∉ part) (tone : Tone)
    (rest : List Char) : dropCodes 0 (colourPart tone part ++ rest) = part ++ dropCodes 0 rest := by
  by_cases hpart : part = []
  · subst hpart
    rfl
  · have hcoloured : colourPart tone part = startCode tone ++ part ++ endCode := if_neg hpart
    rw [hcoloured, List.append_assoc, List.append_assoc, dropCodes_code (startCode_mem_codes tone),
      dropCodes_append_of_not_mem h, dropCodes_code (by simp [codes])]

/-! ### Messages -/

/-- The parts of a line as they are written, in colours or without them. -/
def writtenParts (tone : Tone) (coloured : Bool) (parts : List (List Char)) : List Char :=
  (if coloured then parts.map (colourPart tone) else parts).flatten

theorem toList_written (tone : Tone) (emoji coloured : Bool) (message : String) :
    (written tone emoji coloured message).toList =
      (messageLines (optional emoji tone.emoji ++ message)).flatMap fun parts =>
        writtenParts tone coloured parts ++ ['\n'] := by
  rw [written, toList_joinLines, List.flatMap_map]
  rfl

theorem dropCodes_writtenParts {parts : List (List Char)} (h : ∀ part ∈ parts, '\x1b' ∉ part)
    (tone : Tone) (coloured : Bool) (rest : List Char) :
    dropCodes 0 (writtenParts tone coloured parts ++ rest) =
      writtenParts tone false parts ++ dropCodes 0 rest := by
  induction parts with
  | nil => cases coloured <;> rfl
  | cons part more ih =>
    have hpart : '\x1b' ∉ part := h part List.mem_cons_self
    have hmore := ih fun p hp => h p (List.mem_cons_of_mem part hp)
    cases coloured with
    | true =>
      change dropCodes 0 (colourPart tone part ++ writtenParts tone true more ++ rest) =
        part ++ writtenParts tone false more ++ dropCodes 0 rest
      rw [List.append_assoc, dropCodes_colourPart hpart, hmore, List.append_assoc]
    | false =>
      change dropCodes 0 (part ++ writtenParts tone false more ++ rest) =
        part ++ writtenParts tone false more ++ dropCodes 0 rest
      rw [List.append_assoc, dropCodes_append_of_not_mem hpart, hmore, List.append_assoc]

/-- No part of a message without the character that starts codes has it. -/
theorem escape_not_mem_part (h : '\x1b' ∉ message.toList) {parts : List (List Char)}
    (hparts : parts ∈ messageLines (optional emoji tone.emoji ++ message)) :
    ∀ part ∈ parts, '\x1b' ∉ part := by
  intro part hpart hmem
  rcases (mem_of_mem_messageLines hparts hpart hmem).2 with hspace | hmem
  · exact absurd hspace (by decide)
  · rw [String.toList_append] at hmem
    rcases List.mem_append.mp hmem with hemoji | hmessage
    · revert hemoji
      cases emoji <;> cases tone <;> decide
    · exact h hmessage

/-- In colours or not, a message without the character that starts codes is the same text. -/
theorem withoutColours_written (h : '\x1b' ∉ message.toList) (tone : Tone)
    (emoji coloured : Bool) :
    withoutColours (written tone emoji coloured message) = written tone emoji false message := by
  have hlines (lines : List (List (List Char)))
      (hescape : ∀ parts ∈ lines, ∀ part ∈ parts, '\x1b' ∉ part) :
      dropCodes 0 (lines.flatMap fun parts => writtenParts tone coloured parts ++ ['\n']) =
        lines.flatMap fun parts => writtenParts tone false parts ++ ['\n'] := by
    induction lines with
    | nil => rfl
    | cons parts more ih =>
      rw [List.flatMap_cons, List.flatMap_cons, List.append_assoc, List.append_assoc,
        dropCodes_writtenParts (hescape parts List.mem_cons_self),
        dropCodes_append_of_not_mem (by decide),
        ih fun p hp => hescape p (List.mem_cons_of_mem parts hp)]
  rw [withoutColours, toList_written, hlines _ fun parts => escape_not_mem_part h,
    ← toList_written, String.ofList_toList]

/-- The lines of a message that is written without colours. -/
theorem lines_written (tone : Tone) (emoji : Bool) (message : String) :
    Text.lines (written tone emoji false message).toList =
      (messageLines (optional emoji tone.emoji ++ message)).map List.flatten ++ [[]] := by
  apply lines_joinLines
  intro line hline hfeed
  obtain ⟨parts, hparts, rfl⟩ := List.mem_map.mp hline
  obtain ⟨part, hpart, hmem⟩ := List.mem_flatten.mp hfeed
  exact (mem_of_mem_messageLines hparts hpart hmem).1 rfl

/-- A message has codes exactly if it is written in colours and one of its lines is not empty. -/
theorem exists_code_iff (h : '\x1b' ∉ message.toList) :
    (∃ code ∈ codes, code <:+: (written tone emoji coloured message).toList) ↔
      coloured = true ∧
        ∃ line ∈ Text.lines (written tone emoji false message).toList, line ≠ [] := by
  rw [lines_written, toList_written]
  constructor
  · rintro ⟨code, hcode, hinfix⟩
    obtain ⟨body, rfl⟩ := exists_code_eq hcode
    obtain ⟨parts, hparts, hmem⟩ := List.mem_flatMap.mp (List.IsInfix.subset hinfix List.mem_cons_self)
    have hescape := escape_not_mem_part h hparts
    have hwritten : '\x1b' ∈ writtenParts tone coloured parts := by simpa using hmem
    cases coloured with
    | false =>
      obtain ⟨part, hpart, hmem⟩ := List.mem_flatten.mp hwritten
      exact absurd hmem (hescape part hpart)
    | true =>
      obtain ⟨shown, hshown, hmem⟩ := List.mem_flatten.mp hwritten
      obtain ⟨part, hpart, rfl⟩ := List.mem_map.mp hshown
      have hne : part ≠ [] := by
        rintro rfl
        cases hmem
      refine ⟨rfl, parts.flatten, List.mem_append_left _ (List.mem_map_of_mem hparts), ?_⟩
      exact fun hnil => hne (List.flatten_eq_nil_iff.mp hnil part hpart)
  · rintro ⟨rfl, line, hline, hne⟩
    rcases List.mem_append.mp hline with hline | hlast
    · obtain ⟨parts, hparts, rfl⟩ := List.mem_map.mp hline
      obtain ⟨part, hpart, hpart_ne⟩ := List.flatten_ne_nil_iff.mp hne
      have hcoloured : startCode tone <:+: colourPart tone part := by
        rw [colourPart, if_neg hpart_ne, List.append_assoc]
        exact (List.prefix_append _ _).isInfix
      have hparts' : colourPart tone part <:+: writtenParts tone true parts :=
        List.infix_of_mem_flatten (List.mem_map_of_mem hpart)
      have hlines : writtenParts tone true parts ++ ['\n'] <:+:
          (messageLines (optional emoji tone.emoji ++ message)).flatMap fun parts =>
            writtenParts tone true parts ++ ['\n'] :=
        List.infix_of_mem_flatten (List.mem_map_of_mem hparts)
      exact ⟨startCode tone, startCode_mem_codes tone, hcoloured.trans
        (hparts'.trans ((List.prefix_append _ _).isInfix.trans hlines))⟩
    · exact absurd (List.mem_singleton.mp hlast) hne

/-! ### Consoles -/

/-- Consoles as they are made while the terminal is what it is. -/
def MadeAt (terminal : Bool) (consoles : Consoles) : Prop :=
  ∀ console ∈ consoles, console.2 = (console.1.colour && terminal)

theorem consoleFor_of_madeAt (h : MadeAt terminal consoles) (choice : Choice) :
    (consoleFor consoles choice terminal).1 = (choice.colour && terminal) ∧
      MadeAt terminal (consoleFor consoles choice terminal).2 := by
  unfold consoleFor
  split
  · next coloured hlookup =>
    obtain ⟨front, back, hconsoles, -⟩ := List.lookup_eq_some_iff.mp hlookup
    have hmem : (choice, coloured) ∈ consoles := hconsoles ▸ by simp
    exact ⟨h _ hmem, h⟩
  · refine ⟨rfl, ?_⟩
    intro console hconsole
    rcases List.mem_cons.mp hconsole with rfl | hconsole
    · rfl
    · exact h console hconsole

/-- Where the terminal stays what it is, a message is written in colours if it may have them and
there is a terminal, whatever was written before. -/
theorem write_of_madeAt (h : MadeAt terminal consoles) (m : Message) :
    (write consoles terminal m).1 =
        written m.tone m.emoji (m.colour.getD terminal && terminal) m.text ∧
      MadeAt terminal (write consoles terminal m).2 := by
  obtain ⟨hcoloured, hmade⟩ := consoleFor_of_madeAt h ⟨m.colour.getD terminal, m.emoji⟩
  refine ⟨?_, hmade⟩
  change written m.tone m.emoji (m.colour.getD terminal && (consoleFor consoles _ terminal).1) _ = _
  rw [hcoloured, ← Bool.and_assoc, Bool.and_self]

theorem writeAll_cons (consoles : Consoles) (call : Bool × Message) (rest : List (Bool × Message)) :
    writeAll consoles (call :: rest) =
      (write consoles call.1 call.2).1 :: writeAll (write consoles call.1 call.2).2 rest :=
  rfl

theorem writeAll_of_madeAt (h : MadeAt terminal consoles) (messages : List Message) :
    writeAll consoles (messages.map (terminal, ·)) = messages.map fun m =>
      written m.tone m.emoji (m.colour.getD terminal && terminal) m.text := by
  induction messages generalizing consoles with
  | nil => rfl
  | cons m rest ih =>
    obtain ⟨hwritten, hmade⟩ := write_of_madeAt h m
    rw [List.map_cons, List.map_cons, writeAll_cons, ih hmade, hwritten]

/-- The consoles that are left behind by messages. -/
def consolesAfter (consoles : Consoles) (calls : List (Bool × Message)) : Consoles :=
  calls.foldl (fun consoles call => (write consoles call.1 call.2).2) consoles

theorem nodup_choices_consoleFor (h : (consoles.map Prod.fst).Nodup) (choice : Choice)
    (terminal : Bool) : ((consoleFor consoles choice terminal).2.map Prod.fst).Nodup := by
  unfold consoleFor
  split
  · exact h
  · next hnone =>
    refine List.nodup_cons.mpr ⟨fun hmem => ?_, h⟩
    obtain ⟨console, hconsole, hchoice⟩ := List.mem_map.mp hmem
    exact absurd hchoice.symm (by simpa using List.lookup_eq_none_iff.mp hnone console hconsole)

/-- However many messages are written, there are no more than four consoles. -/
theorem length_consolesAfter_le (calls : List (Bool × Message)) :
    (consolesAfter [] calls).length ≤ 4 := by
  have hnodup (consoles : Consoles) (h : (consoles.map Prod.fst).Nodup) :
      ((consolesAfter consoles calls).map Prod.fst).Nodup := by
    induction calls generalizing consoles with
    | nil => exact h
    | cons call rest ih => exact ih _ (nodup_choices_consoleFor h _ call.1)
  have hall : (consolesAfter [] calls).map Prod.fst ⊆
      [⟨false, false⟩, ⟨false, true⟩, ⟨true, false⟩, ⟨true, true⟩] := by
    rintro ⟨colour, emoji⟩ -
    cases colour <;> cases emoji <;> decide
  have hlength := (List.subperm_of_subset (hnodup [] List.nodup_nil) hall).length_le
  rwa [List.length_map] at hlength

/-! ### Calls -/

/-- What a message is written as without colours. -/
def Message.plain (m : Message) : String :=
  written m.tone m.emoji false m.text

/-- A message that is to have no colours. -/
def Message.colourless (m : Message) : Message :=
  { m with colour := some false }

/-- What a message is written as where no console has been made yet. -/
def alone (call : Option Bool × Message) : String :=
  (write [] (hasTerminal call.1) call.2).1

/-- Without their colours messages are the same on whatever consoles and terminals. -/
theorem withoutColours_writeAll (consoles : Consoles) {calls : List (Bool × Message)}
    (h : ∀ call ∈ calls, '\x1b' ∉ call.2.text.toList) :
    (writeAll consoles calls).map withoutColours = calls.map (·.2.plain) := by
  induction calls generalizing consoles with
  | nil => rfl
  | cons call rest ih =>
    have hrest := ih (write consoles call.1 call.2).2 fun c hc => h c (List.mem_cons_of_mem call hc)
    rw [writeAll_cons, List.map_cons, List.map_cons, hrest]
    exact congrArg (· :: _) (withoutColours_written (h call List.mem_cons_self) _ _ _)

theorem writeAll_colourless (consoles : Consoles) (calls : List (Bool × Message)) :
    writeAll consoles (calls.map fun call => (call.1, call.2.colourless)) =
      calls.map (·.2.plain) := by
  induction calls generalizing consoles with
  | nil => rfl
  | cons call rest ih => exact congrArg (call.2.plain :: ·) (ih _)

theorem madeAt_nil : MadeAt terminal [] := by
  intro console hconsole
  cases hconsole

theorem alone_eq (call : Option Bool × Message) :
    alone call = written call.2.tone call.2.emoji
      (call.2.colour.getD (hasTerminal call.1) && hasTerminal call.1) call.2.text :=
  (write_of_madeAt madeAt_nil call.2).1

/-- Deleting the codes from what is written for messages leaves what is written for them without
colours, whatever the terminal is at each of them and whatever consoles it has left behind; and
characters are written as they are but for tabs, line feeds and control characters. If the terminal
stays what it is, each message is written as it is written alone, and it has codes exactly if there
is a terminal, colours are not declined and one of its lines is not empty. -/
theorem colours_leave_texts (calls : List (Option Bool × Message))
    (hescape : ∀ call ∈ calls, '\x1b' ∉ call.2.text.toList) :
    (sayAll calls).map withoutColours =
        sayAll (calls.map fun call => (call.1, call.2.colourless)) ∧
      sayAll (calls.map fun call => (call.1, call.2.colourless)) = calls.map (·.2.plain) ∧
      (∀ m : Message, Verbatim m.text.toList →
        m.plain = optional m.emoji m.tone.emoji ++ m.text ++ "\n") ∧
      ∀ terminal, (∀ call ∈ calls, hasTerminal call.1 = terminal) →
        sayAll calls = calls.map alone ∧
          ∀ call ∈ calls, ((∃ code ∈ codes, code <:+: (alone call).toList) ↔
            terminal = true ∧ call.2.colour ≠ some false ∧
              ∃ line ∈ Text.lines call.2.plain.toList, line ≠ []) := by
  have hcolourless :
      sayAll (calls.map fun call => (call.1, call.2.colourless)) = calls.map (·.2.plain) := by
    have hplain := writeAll_colourless [] (calls.map fun call => (hasTerminal call.1, call.2))
    rw [List.map_map, List.map_map] at hplain
    rw [sayAll, List.map_map]
    exact hplain
  refine ⟨?texts, hcolourless, fun m => written_of_verbatim m.tone m.emoji, ?constant⟩
  case texts =>
    have hmessages : ∀ call ∈ calls.map fun call => (hasTerminal call.1, call.2),
        '\x1b' ∉ call.2.text.toList := by
      intro seen hseen
      obtain ⟨call, hcall, rfl⟩ := List.mem_map.mp hseen
      exact hescape call hcall
    rw [hcolourless, sayAll]
    exact (withoutColours_writeAll [] hmessages).trans List.map_map
  case constant =>
    intro terminal hterminal
    constructor
    · have hcalls : (calls.map fun call => (hasTerminal call.1, call.2)) =
          (calls.map Prod.snd).map (terminal, ·) := by
        rw [List.map_map]
        exact List.map_congr_left fun call hcall => congrArg (·, call.2) (hterminal call hcall)
      rw [sayAll]
      refine (congrArg (writeAll []) hcalls).trans ((writeAll_of_madeAt madeAt_nil _).trans ?_)
      rw [List.map_map]
      apply List.map_congr_left
      intro call hcall
      rw [alone_eq, hterminal call hcall]
      rfl
    · intro call hcall
      have hcoloured : (call.2.colour.getD terminal && terminal) = true ↔
          terminal = true ∧ call.2.colour ≠ some false := by
        cases terminal with
        | false => simp
        | true => cases h : call.2.colour <;> simp
      rw [alone_eq, hterminal call hcall, exists_code_iff (hescape call hcall), hcoloured,
        and_assoc]
      rfl

/-- A message that looks like markup and like the name of an emoji, in colours on a terminal. -/
def bracketed : Message :=
  ⟨.good, "[b] :x:", true, none⟩

/-- On a terminal that is gone before the next message. -/
theorem colours_leave_texts_of_bracketed :
    (sayAll [(some true, bracketed), (none, ⟨.bad, "[/]", false, some true⟩)]).map
        withoutColours = ["✅ [b] :x:\n", "[/]\n"] ∧
      ∃ code ∈ codes, code <:+: (alone (some true, bracketed)).toList := by
  obtain ⟨htexts, hplain, hverbatim, -⟩ := colours_leave_texts
    [(some true, bracketed), (none, ⟨.bad, "[/]", false, some true⟩)] (by decide)
  obtain ⟨-, -, -, hconstant⟩ := colours_leave_texts [(some true, bracketed)] (by decide)
  have hfirst := hverbatim bracketed (by decide)
  have hsecond := hverbatim ⟨.bad, "[/]", false, some true⟩ (by decide)
  refine ⟨htexts.trans (hplain.trans ?_), ?_⟩
  · rw [List.map_cons, List.map_singleton, hfirst, hsecond]
    rfl
  · refine ((hconstant true (by simp [hasTerminal])).2 _ List.mem_cons_self).mpr ⟨rfl, ?_, ?_⟩
    · decide
    · rw [hfirst]
      decide

end LintBridge.Terminal
