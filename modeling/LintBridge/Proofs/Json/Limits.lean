import LintBridge.Proofs.Json.Reader

/-!
Where the reader stops because of its limits.

A place is reached `n` containers deep (`Reaches`) if the way from the start of a text to it opens
`n` arrays and objects, one in the other, and passes by whole documents only. The reader stops at a
limit only at a place that it has reached so: `maxDepth` deep in front of one more opening bracket,
or in front of a whole numeral of more than `maxDigits` digits (`read_stops_aux`). Any other error
is a flaw of the text.
-/

namespace LintBridge.Json

/-! ### Places in a text -/

mutual

/-- The way from the start of a document to a place that so many containers are open at. -/
inductive Reaches : List Char → Nat → List Char → Prop where
  | here {cs : List Char} : Reaches cs 0 cs
  | array {cs place : List Char} {n : Nat} (h : ReachesItem (skipGap cs) n place) :
      Reaches ('[' :: cs) (n + 1) place
  | object {cs place : List Char} {n : Nat} (h : ReachesMember (skipGap cs) n place) :
      Reaches ('{' :: cs) (n + 1) place

/-- The way from an item of an array to a place in it or in a later one. -/
inductive ReachesItem : List Char → Nat → List Char → Prop where
  | here {cs place : List Char} {n : Nat} (h : Reaches cs n place) : ReachesItem cs n place
  | later {cs mid next place : List Char} {v : Json} {n : Nat} (hv : Document cs v mid)
      (hcomma : skipGap mid = ',' :: next) (h : ReachesItem (skipGap next) n place) :
      ReachesItem cs n place

/-- The way from a member of an object to a place in its value or in that of a later one. -/
inductive ReachesMember : List Char → Nat → List Char → Prop where
  | here {cs afterName value place : List Char} {name : Content} {n : Nat}
      (hname : Body cs name afterName) (hcolon : skipGap afterName = ':' :: value)
      (h : Reaches (skipGap value) n place) : ReachesMember ('"' :: cs) n place
  | later {cs mid next place : List Char} {m : String × Json} {n : Nat} (hm : Member cs m mid)
      (hcomma : skipGap mid = ',' :: next) (h : ReachesMember (skipGap next) n place) :
      ReachesMember cs n place

end

/-- The bracket that a container starts with. -/
def Container.opening : Container → Char
  | .array => '['
  | .object => '{'

/-- A text that starts with these digits, of which there are more than are read. -/
def StartsTooLong (digits cs : List Char) : Prop :=
  Decimal.maxDigits < digits.length ∧ (∀ c ∈ digits, c.isDigit = true) ∧
    ∃ negative rest, cs = signText negative ++ (digits ++ rest)

/-- What a stop tells of the place where it happened, which is `depth` levels above the deepest. -/
inductive StopsAt (reaches : Nat → List Char → Prop) (depth : Nat) : Stop → Prop where
  | broken (flaw : Flaw) (left : Nat) : StopsAt reaches depth (.broken flaw left)
  | tooDeep {container : Container} {tail : List Char}
      (h : reaches depth (container.opening :: tail)) : StopsAt reaches depth (.tooDeep container)
  | tooLong {n : Nat} {digits place : List Char} (h : reaches n place)
      (hlong : StartsTooLong digits place) : StopsAt reaches depth (.numeralTooLong digits.length)

/-! ### Scalars -/

theorem readSecondHalf_eq_error {high : Nat} {cs : List Char} {stop : Stop}
    (h : readSecondHalf high cs = .error stop) : ∃ flaw left, stop = .broken flaw left := by
  unfold readSecondHalf at h
  split at h
  · split at h
    · cases h
      exact ⟨_, _, rfl⟩
    · split at h <;> cases h
  · cases h

theorem readStringPart_eq_error {opening : Nat} {cs : List Char} {stop : Stop}
    (h : readStringPart opening cs = .error stop) : ∃ flaw left, stop = .broken flaw left := by
  unfold readStringPart at h
  split at h
  case h_2 => cases h
  case h_4 =>
    split at h
    · cases h
      exact ⟨_, _, rfl⟩
    · split at h
      · exact readSecondHalf_eq_error h
      · cases h
  case h_6 =>
    split at h <;> cases h
    exact ⟨_, _, rfl⟩
  case h_7 =>
    split at h <;> cases h
    exact ⟨_, _, rfl⟩
  all_goals
    cases h
    exact ⟨_, _, rfl⟩

/-- A string has no limits, so whatever stops it is a flaw. -/
theorem readString_eq_error {opening : Nat} {cs : List Char} {stop : Stop}
    (h : readString opening cs = .error stop) : ∃ flaw left, stop = .broken flaw left := by
  fun_induction readString opening cs with
  | case1 cs stop' hs =>
    cases h
    exact readStringPart_eq_error hs
  | case2 cs tail hp => cases h
  | case3 cs p tail hp _ stop' hs ih =>
    cases h
    exact ih hs
  | case4 cs p tail hp _ content rest ht ih => cases h

theorem readNumber_eq_error {cs : List Char} {stop : Stop} (h : readNumber cs = .error stop) :
    (∃ left, stop = .broken .expectingValue left) ∨
      ∃ digits, StartsTooLong digits cs ∧ stop = .numeralTooLong digits.length := by
  rcases hw : takeWhole (if cs.head? = some '-' then cs.drop 1 else cs) with ⟨whole, afterWhole⟩
  obtain ⟨hwhole, hdigits, -⟩ := takeWhole_cases hw
  simp only [readNumber, hw] at h
  split at h
  · cases h
    exact .inl ⟨_, rfl⟩
  · split at h
    · split at h
      · next hlong =>
        cases h
        refine .inr ⟨whole, ⟨hlong, hdigits, cs.head? = some '-', afterWhole, ?_⟩, rfl⟩
        rw [← hwhole]
        exact (signText_append cs).symm
      · cases h
    · cases h

theorem readScalar_eq_error {cs : List Char} {stop : Stop} (h : readScalar cs = .error stop) :
    (∃ flaw left, stop = .broken flaw left) ∨
      ∃ digits, StartsTooLong digits cs ∧ stop = .numeralTooLong digits.length := by
  unfold readScalar at h
  split at h
  · split at h
    · cases h
    · next stop' hs =>
      cases h
      exact .inl (readString_eq_error hs)
  · split at h
    · cases h
    · obtain ⟨left, rfl⟩ | hlong := readNumber_eq_error h
      · exact .inl ⟨_, left, rfl⟩
      · exact .inr hlong

/-! ### Errors of the readers -/

/-- How a document is refused: where nothing may nest any more, by a nested reader, or as a scalar.
-/
theorem readValue_error_cases {fuel depth : Nat} {cs : List Char} {stop : Stop}
    (h : readValue (fuel + 1) depth cs = .error stop) :
    (∃ container tail, depth = 0 ∧ cs = Container.opening container :: tail ∧
        stop = .tooDeep container) ∨
      (∃ d tail, depth = d + 1 ∧ cs = '[' :: tail ∧
        readItems fuel d (skipGap tail) = .error stop) ∨
      (∃ d tail, depth = d + 1 ∧ cs = '{' :: tail ∧
        readMembers fuel d (skipGap tail) = .error stop) ∨
      readScalar cs = .error stop := by
  unfold readValue at h
  split at h
  case h_1 hfuel => cases hfuel
  case h_2 =>
    cases h
    exact .inl ⟨.array, _, rfl, rfl, rfl⟩
  case h_3 =>
    cases h
    exact .inl ⟨.object, _, rfl, rfl, rfl⟩
  case h_4 _ _ fuel' d tail hfuel =>
    cases hfuel
    split at h
    · cases h
    · split at h
      · cases h
      · next stop' hitems =>
        cases h
        exact .inr (.inl ⟨d, tail, rfl, rfl, hitems⟩)
  case h_5 _ _ fuel' d tail hfuel =>
    cases hfuel
    split at h
    · cases h
    · split at h
      · cases h
      · next stop' hmembers =>
        cases h
        exact .inr (.inr (.inl ⟨d, tail, rfl, rfl, hmembers⟩))
  case h_6 => exact .inr (.inr (.inr h))

/-- How items are refused: in the first one, in those behind its comma, or for what stands there. -/
theorem readItems_error_cases {fuel depth : Nat} {cs : List Char} {stop : Stop}
    (h : readItems (fuel + 1) depth cs = .error stop) :
    readValue fuel depth cs = .error stop ∨
      (∃ v mid next, readValue fuel depth cs = .ok (v, mid) ∧ skipGap mid = ',' :: next ∧
        readItems fuel depth (skipGap next) = .error stop) ∨
      ∃ flaw left, stop = .broken flaw left := by
  unfold readItems at h
  split at h
  · next stop' hv =>
    cases h
    exact .inl hv
  · next v mid hv =>
    split at h
    · cases h
    · next next hcomma =>
      split at h
      · cases h
      · next stop' hitems =>
        cases h
        exact .inr (.inl ⟨v, mid, next, hv, hcomma, hitems⟩)
    · cases h
      exact .inr (.inr ⟨_, _, rfl⟩)

/-- How members are refused: in the first value, in the members behind its comma, or for what stands
at another place. -/
theorem readMembers_error_cases {fuel depth : Nat} {cs : List Char} {stop : Stop}
    (h : readMembers (fuel + 1) depth cs = .error stop) :
    (∃ tail name afterName value, cs = '"' :: tail ∧
        readString (tail.length + 1) tail = .ok (name, afterName) ∧
        skipGap afterName = ':' :: value ∧
        (readValue fuel depth (skipGap value) = .error stop ∨
          ∃ v mid next, readValue fuel depth (skipGap value) = .ok (v, mid) ∧
            skipGap mid = ',' :: next ∧
            readMembers fuel depth (skipGap next) = .error stop)) ∨
      ∃ flaw left, stop = .broken flaw left := by
  unfold readMembers at h
  split at h
  case h_1 hfuel => cases hfuel
  case h_2 _ fuel' tail hfuel =>
    cases hfuel
    split at h
    · next stop' hname =>
      cases h
      exact .inr (readString_eq_error hname)
    · next name afterName hname =>
      split at h
      · next value hcolon =>
        split at h
        · next stop' hv =>
          cases h
          exact .inl ⟨tail, name, afterName, value, rfl, hname, hcolon, .inl hv⟩
        · next v mid hv =>
          split at h
          · cases h
          · next next hcomma =>
            split at h
            · cases h
            · next stop' hmembers =>
              cases h
              exact .inl ⟨tail, name, afterName, value, rfl, hname, hcolon,
                .inr ⟨v, mid, next, hv, hcomma, hmembers⟩⟩
          · cases h
            exact .inr ⟨_, _, rfl⟩
      · cases h
        exact .inr ⟨_, _, rfl⟩
  case h_3 =>
    cases h
    exact .inr ⟨_, _, rfl⟩

/-! ### The limits -/

/-- A stop stays one in a text that reaches the same places, and maybe from further above. -/
theorem StopsAt.mono {reaches reaches' : Nat → List Char → Prop} {depth k : Nat} {stop : Stop}
    (h : StopsAt reaches depth stop)
    (hreaches : ∀ n place, reaches n place → reaches' (n + k) place) :
    StopsAt reaches' (depth + k) stop := by
  cases h with
  | broken flaw left => exact .broken flaw left
  | tooDeep h => exact .tooDeep (hreaches _ _ h)
  | tooLong h hlong => exact .tooLong (hreaches _ _ h) hlong

/-- What the three readers stop at, for one amount of fuel. -/
theorem read_stops_aux (fuel : Nat) :
    (∀ depth cs stop, readValue fuel depth cs = .error stop → StopsAt (Reaches cs) depth stop) ∧
      (∀ depth cs stop, readItems fuel depth cs = .error stop →
        StopsAt (ReachesItem cs) depth stop) ∧
      (∀ depth cs stop, readMembers fuel depth cs = .error stop →
        StopsAt (ReachesMember cs) depth stop) := by
  induction fuel with
  | zero =>
    refine ⟨?_, ?_, ?_⟩ <;>
    · intro depth cs stop h
      cases h
      exact .broken _ _
  | succ fuel ih =>
    obtain ⟨ihv, ihi, ihm⟩ := ih
    refine ⟨?value, ?items, ?members⟩
    case value =>
      intro depth cs stop h
      obtain ⟨container, tail, rfl, rfl, rfl⟩ | ⟨d, tail, rfl, rfl, hi⟩ | ⟨d, tail, rfl, rfl, hm⟩ |
        hs := readValue_error_cases h
      · exact .tooDeep .here
      · exact (ihi d _ stop hi).mono (k := 1) fun n place => .array
      · exact (ihm d _ stop hm).mono (k := 1) fun n place => .object
      · obtain ⟨flaw, left, rfl⟩ | ⟨digits, hlong, rfl⟩ := readScalar_eq_error hs
        · exact .broken flaw left
        · exact .tooLong .here hlong
    case items =>
      intro depth cs stop h
      obtain hv | ⟨v, mid, next, hv, hcomma, hi⟩ | ⟨flaw, left, rfl⟩ := readItems_error_cases h
      · exact (ihv depth cs stop hv).mono (k := 0) fun n place => .here
      · have hdoc := ((read_sound_aux fuel).1 depth cs v mid hv).1
        exact (ihi depth _ stop hi).mono (k := 0) fun n place => .later hdoc hcomma
      · exact .broken flaw left
    case members =>
      intro depth cs stop h
      obtain ⟨tail, name, afterName, value, rfl, hname, hcolon, hv⟩ | ⟨flaw, left, rfl⟩ :=
        readMembers_error_cases h
      · obtain hv | ⟨v, mid, next, hv, hcomma, hm⟩ := hv
        · exact (ihv depth _ stop hv).mono (k := 0) fun n place =>
            .here (readString_sound hname) hcolon
        · have hdoc := ((read_sound_aux fuel).1 depth _ v mid hv).1
          have hmember := Member.intro (readString_sound hname) hcolon hdoc
          exact (ihm depth _ stop hm).mono (k := 0) fun n place => .later hmember hcomma
      · exact .broken flaw left

theorem stopsAt_of_read {cs : List Char} {e : ReadError} (h : read cs = .error e) :
    ∃ stop, StopsAt (Reaches cs) maxDepth stop ∧ stop.toReadError cs.length = e := by
  unfold read at h
  split at h
  · cases h
  · next stop hread => exact ⟨stop, (read_stops_aux _).1 _ _ _ hread, Except.error.inj h⟩

/-- A text that is refused for its depth opens one container more than documents may nest. -/
theorem reaches_of_tooDeep {cs : List Char} {container : Container}
    (h : read cs = .error (.tooDeep container)) :
    ∃ tail, Reaches cs maxDepth (container.opening :: tail) := by
  obtain ⟨stop, hstop, he⟩ := stopsAt_of_read h
  cases hstop with
  | broken flaw left => cases he
  | tooDeep hreaches =>
    cases he
    exact ⟨_, hreaches⟩
  | tooLong hreaches hlong => cases he

/-- A text that is refused for a numeral comes to one that is too long. -/
theorem reaches_of_tooLong {cs : List Char} {k : Nat} (h : read cs = .error (.numeralTooLong k)) :
    ∃ n digits place, Reaches cs n place ∧ StartsTooLong digits place ∧ digits.length = k := by
  obtain ⟨stop, hstop, he⟩ := stopsAt_of_read h
  cases hstop with
  | broken flaw left => cases he
  | tooDeep hreaches => cases he
  | tooLong hreaches hlong =>
    cases he
    exact ⟨_, _, _, hreaches, hlong, rfl⟩

/-! ### What a place shows of the text -/

/-- The brackets that containers start with. -/
def isOpening (c : Char) : Bool :=
  c == '[' || c == '{'

theorem skipGap_suffix (cs : List Char) : skipGap cs <:+ cs :=
  List.dropWhile_suffix isGap

theorem Document.suffix {cs rest : List Char} {v : Json} (h : Document cs v rest) :
    rest <:+ cs := by
  obtain ⟨text, rfl, -, -⟩ := h.exists_text
  exact List.suffix_append text rest

theorem Member.suffix {cs rest : List Char} {m : String × Json} (h : Member cs m rest) :
    rest <:+ cs := by
  obtain ⟨text, rfl, -, -⟩ := h.exists_text
  exact List.suffix_append text rest

theorem Body.suffix {cs rest : List Char} {content : Content} (h : Body cs content rest) :
    rest <:+ cs := by
  obtain ⟨text, rfl, -⟩ := h.exists_text
  exact ⟨text ++ ['"'], by simp⟩

/-- What stands behind a mark, gaps apart, stands in the text. -/
theorem suffix_of_skipGap {cs rest next : List Char} {c : Char} (hrest : rest <:+ cs)
    (h : skipGap rest = c :: next) : skipGap next <:+ cs :=
  ((skipGap_suffix next).trans (h ▸ List.suffix_cons c next)).trans
    ((skipGap_suffix rest).trans hrest)

/-- A place of a text that at least so many opening brackets stand in front of. -/
def Behind (n : Nat) (place cs : List Char) : Prop :=
  ∃ front, cs = front ++ place ∧ n ≤ front.countP isOpening

theorem Behind.of_suffix {n : Nat} {place rest cs : List Char} (h : Behind n place rest)
    (hrest : rest <:+ cs) : Behind n place cs := by
  obtain ⟨front, rfl, hn⟩ := h
  obtain ⟨more, rfl⟩ := hrest
  refine ⟨more ++ front, (List.append_assoc more front place).symm, ?_⟩
  rw [List.countP_append]
  exact Nat.le_add_left_of_le hn

theorem Behind.cons {n : Nat} {place cs : List Char} {c : Char} (h : Behind n place cs)
    (hc : isOpening c = true) : Behind (n + 1) place (c :: cs) := by
  obtain ⟨front, rfl, hn⟩ := h
  refine ⟨c :: front, rfl, ?_⟩
  rw [List.countP_cons_of_pos hc]
  exact Nat.succ_le_succ hn

mutual

/-- Each container on the way to a place has its bracket in front of the place. -/
theorem Reaches.behind {cs place : List Char} {n : Nat} :
    Reaches cs n place → Behind n place cs
  | .here => ⟨[], rfl, Nat.zero_le _⟩
  | .array h => (h.behind.of_suffix (skipGap_suffix _)).cons rfl
  | .object h => (h.behind.of_suffix (skipGap_suffix _)).cons rfl

theorem ReachesItem.behind {cs place : List Char} {n : Nat} :
    ReachesItem cs n place → Behind n place cs
  | .here h => h.behind
  | .later hv hcomma h => h.behind.of_suffix (suffix_of_skipGap hv.suffix hcomma)

theorem ReachesMember.behind {cs place : List Char} {n : Nat} :
    ReachesMember cs n place → Behind n place cs
  | .here hname hcolon h =>
    h.behind.of_suffix
      (suffix_of_skipGap (hname.suffix.trans (List.suffix_cons _ _)) hcolon)
  | .later hm hcomma h => h.behind.of_suffix (suffix_of_skipGap hm.suffix hcomma)

end

/-- A text that goes too deep has more opening brackets than documents may nest. -/
theorem lt_countP_of_reaches {cs tail : List Char} {n : Nat} {container : Container}
    (h : Reaches cs n (container.opening :: tail)) : n < cs.countP isOpening := by
  obtain ⟨front, rfl, hn⟩ := h.behind
  have hopening : isOpening container.opening = true := by cases container <;> rfl
  rw [List.countP_append, List.countP_cons_of_pos hopening]
  omega

/-- The digits of a numeral that a text comes to stand in the text. -/
theorem infix_of_reaches {cs place digits : List Char} {n : Nat} (h : Reaches cs n place)
    (hlong : StartsTooLong digits place) : digits <:+: cs := by
  obtain ⟨front, rfl, -⟩ := h.behind
  obtain ⟨-, -, negative, rest, rfl⟩ := hlong
  exact ⟨front ++ signText negative, rest, by simp⟩

/-! ### Texts that go beyond the limits -/

/-- Arrays that are opened one in the other are refused at the first one that nests too deep. -/
theorem readValue_openings (rest : List Char) (depth fuel : Nat) (hfuel : 2 * depth < fuel) :
    readValue fuel depth (List.replicate (depth + 1) '[' ++ rest) = .error (.tooDeep .array) := by
  induction depth generalizing fuel with
  | zero =>
    obtain ⟨fuel, rfl⟩ := Nat.exists_eq_add_of_lt hfuel
    rw [readValue.eq_def]
    rfl
  | succ depth ih =>
    obtain ⟨fuel, rfl⟩ : ∃ less, fuel = less + 2 := ⟨fuel - 2, by omega⟩
    have hskip : skipGap (List.replicate (depth + 1) '[' ++ rest) =
        List.replicate (depth + 1) '[' ++ rest := rfl
    have hitems : readItems (fuel + 1) depth (List.replicate (depth + 1) '[' ++ rest) =
        .error (.tooDeep .array) := by
      rw [readItems, ih fuel (by omega)]
    rw [List.replicate_succ, List.cons_append, readValue, hskip]
    split
    · next hclose => cases hclose
    · rw [hitems]

theorem read_openings (rest : List Char) :
    read (List.replicate (maxDepth + 1) '[' ++ rest) = .error (.tooDeep .array) := by
  have hlength : maxDepth < (List.replicate (maxDepth + 1) '[' ++ rest).length := by
    rw [List.length_append, List.length_replicate]
    omega
  rw [read, readValue_openings rest maxDepth _ (by omega)]
  rfl

theorem readNumber_tooLong {d : Char} {digits rest : List Char}
    (hlong : Decimal.maxDigits < (d :: digits).length)
    (hdigits : ∀ c ∈ d :: digits, c.isDigit = true) (hzero : d ≠ '0') (hstops : Stops rest) :
    readNumber (d :: digits ++ rest) = .error (.numeralTooLong (d :: digits).length) := by
  have hsign : d ≠ '-' := by
    rintro rfl
    exact absurd (hdigits '-' List.mem_cons_self) (by decide)
  have hwhole : takeWhole (d :: digits ++ rest) = (d :: digits, rest) :=
    takeWhole_append hdigits (by simp [hzero]) (hstops.head fun c => isNumeric_of_isDigit)
  have hfraction : takeFraction rest = ([], rest) := by
    refine takeFraction_of_stop (hstops.head fun c hc => ?_)
    rcases Bool.or_eq_true_iff.mp hc with hc | hc
    · exact isNumeric_of_isDigit hc
    · rw [eq_of_beq hc]
      rfl
  rw [List.cons_append] at hwhole ⊢
  simp only [readNumber, List.head?_cons, Option.some.injEq, hsign, decide_false, if_false,
    hwhole, hfraction, takeExponent_of_stop hstops, hlong, if_true, reduceCtorEq]

/-- A whole numeral of too many digits is refused. -/
theorem read_tooLong {d : Char} {digits rest : List Char}
    (hlong : Decimal.maxDigits < (d :: digits).length)
    (hdigits : ∀ c ∈ d :: digits, c.isDigit = true) (hzero : d ≠ '0') (hstops : Stops rest) :
    read (d :: digits ++ rest) = .error (.numeralTooLong (d :: digits).length) := by
  have hd : d.isDigit = true := hdigits d List.mem_cons_self
  have hbracket : d ≠ '[' ∧ d ≠ '{' := by
    constructor <;> rintro rfl <;> cases hd
  have hnoword : readWord? (d :: (digits ++ rest)) = none := readWord?_number false hd _
  have hnumber := readNumber_tooLong hlong hdigits hzero hstops
  rw [List.cons_append] at hnumber ⊢
  rw [read, readValue_scalar hbracket, readScalar]
  · rw [hnoword, hnumber]
    rfl
  · intro more hquote
    rw [(List.cons.inj hquote).1] at hd
    cases hd

end LintBridge.Json
