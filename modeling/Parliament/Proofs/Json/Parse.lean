import Parliament.Json.Parse
import Parliament.Proofs.Json
import Parliament.Proofs.Json.Token

/-! # Printed values are parsed again

Whatever can be written comes back from its own text, with nothing behind it.
-/

namespace Parliament.Json

/-! ## The characters of a printed value -/

def quoted (s : String) : List Char :=
  '"' :: (s.toList.flatMap (fun c => (escaped c).toList) ++ ['"'])

mutual

def chars : Json → List Char
  | .null | .defect _ => ['n', 'u', 'l', 'l']
  | .bool true => ['t', 'r', 'u', 'e']
  | .bool false => ['f', 'a', 'l', 's', 'e']
  | .int n => (toString n).toList
  | .text s => quoted s
  | .array [] => ['[', ']']
  | .array (j :: items) => '[' :: (chars j ++ charsOfItems items)
  | .object [] => ['\x7b', '\x7d']
  | .object ((key, j) :: fields) =>
    '\x7b' :: (quoted (key.getD "") ++ ':' :: (chars j ++ charsOfFields fields))

/-- The items behind the first, and the end of the array. -/
def charsOfItems : List Json → List Char
  | [] => [']']
  | j :: items => ',' :: (chars j ++ charsOfItems items)

def charsOfFields : List (Option String × Json) → List Char
  | [] => ['\x7d']
  | (key, j) :: fields =>
    ',' :: (quoted (key.getD "") ++ ':' :: (chars j ++ charsOfFields fields))

end

theorem toList_printText (out s : String) : (printText out s).toList = out.toList ++ quoted s := by
  have escapes : ∀ (cs : List Char) (out : String),
      (cs.foldl (fun out c => out ++ escaped c) out).toList =
        out.toList ++ cs.flatMap fun c => (escaped c).toList := by
    intro cs
    induction cs with
    | nil => simp
    | cons c cs ih => simp [ih]
  simp [printText, quoted, escapes]

mutual

theorem toList_printTo : (j : Json) → (out : String) →
    (printTo out j).toList = out.toList ++ chars j
  | .null, out | .defect _, out => by simp [printTo, chars]
  | .bool true, out | .bool false, out => by simp [printTo, chars]
  | .int n, out => by simp [printTo, chars]
  | .text s, out => by rw [printTo, chars, toList_printText]
  | .array [], out => by simp [printTo, printItems, chars]
  | .array (j :: items), out => by
    have first := toList_printTo j (out ++ "[" ++ "")
    have others := toList_printItems items (printTo (out ++ "[" ++ "") j)
    rw [printTo, printItems, others, first, chars]
    simp
  | .object [], out => by simp [printTo, printFields, chars]
  | .object ((key, j) :: fields), out => by
    have first := toList_printTo j (printText (out ++ "\x7b" ++ "") (key.getD "") ++ ":")
    have others := toList_printFields fields
      (printTo (printText (out ++ "\x7b" ++ "") (key.getD "") ++ ":") j)
    rw [printTo, printFields, others, first, chars]
    simp [toList_printText]

theorem toList_printItems : (items : List Json) → (out : String) →
    (printItems out "," items ++ "]").toList = out.toList ++ charsOfItems items
  | [], out => by simp [printItems, charsOfItems]
  | j :: items, out => by
    rw [printItems, toList_printItems items, toList_printTo j, charsOfItems]
    simp

theorem toList_printFields : (fields : List (Option String × Json)) → (out : String) →
    (printFields out "," fields ++ "\x7d").toList = out.toList ++ charsOfFields fields
  | [], out => by simp [printFields, charsOfFields]
  | (key, j) :: fields, out => by
    rw [printFields, toList_printFields fields, toList_printTo j, charsOfFields]
    simp [toList_printText]

end

theorem toList_print (j : Json) : j.print.toList = chars j := toList_printTo j ""

/-! ## The end of a value -/

theorem stops_charsOfItems (items : List Json) (rest : List Char) :
    Stops (charsOfItems items ++ rest) := by
  cases items <;> exact stops_cons (by decide)

theorem stops_charsOfFields (fields : List (Option String × Json)) (rest : List Char) :
    Stops (charsOfFields fields ++ rest) := by
  cases fields <;> exact stops_cons (by decide)

/-! ## Building values -/

/-- Goes on from what was built with the characters that are left. -/
def buildFrom (b : Build) (cs : List Char) : Build := (tokensFrom .between cs).foldl buildStep b

theorem buildFrom_quoted (b : Build) (s : String) (rest : List Char) :
    buildFrom b (quoted s ++ rest) = buildFrom (buildStep b (.text (some s))) rest := by
  have token := tokensFrom_text s rest
  unfold buildFrom quoted
  rw [List.cons_append, List.append_assoc, List.singleton_append, token, List.foldl_cons]

theorem buildFrom_toString (b : Build) {n : Int} {rest : List Char} (short : n.natAbs ≤ maxWord)
    (stops : Stops rest) :
    buildFrom b ((toString n).toList ++ rest) =
      buildFrom (buildStep b (.scalar (.int n))) rest := by
  unfold buildFrom
  rw [tokensFrom_toString short stops, List.foldl_cons]

/-- A value comes next. In an array that was just opened its end would do as well. -/
def AwaitsValue (expected : Expectation) : Prop := expected = .value ∨ expected = .valueOrClose

theorem buildStep_start {expected : Expectation} (awaits : AwaitsValue expected)
    (frames : List Frame) (t : Token) (starts : t ≠ .closeArray) :
    buildStep (.unfinished frames expected) t = startValue frames t := by
  rcases awaits with rfl | rfl
  · rfl
  · cases t with
    | closeArray => exact absurd rfl starts
    | _ => rcases frames with _ | ⟨_ | _, _⟩ <;> rfl

theorem buildStep_scalar {expected : Expectation} (awaits : AwaitsValue expected)
    (frames : List Frame) (j : Json) :
    buildStep (.unfinished frames expected) (.scalar j) = put j frames :=
  buildStep_start awaits frames (.scalar j) nofun

theorem buildFrom_key {expected : Expectation} (awaits : expected = .key ∨ expected = .keyOrClose)
    (done : List (Option String × Json)) (frames : List Frame) (key : String) (rest : List Char) :
    buildFrom (.unfinished (.object done none :: frames) expected) (quoted key ++ ':' :: rest) =
      buildFrom (.unfinished (.object done (some key) :: frames) .value) rest := by
  rw [buildFrom_quoted]
  rcases awaits with rfl | rfl <;> rfl

-- Over all frames and all that may follow: what is still open around a value does not matter to it.
mutual

theorem buildFrom_chars : (j : Json) → j.Plain → (frames : List Frame) → (expected : Expectation) →
    AwaitsValue expected → (rest : List Char) → Stops rest →
    buildFrom (.unfinished frames expected) (chars j ++ rest) = buildFrom (put j frames) rest
  | .null, _, frames, expected, awaits, rest, _ => by
    show buildFrom (buildStep _ (.scalar .null)) rest = _
    rw [buildStep_scalar awaits]
  | .bool true, _, frames, expected, awaits, rest, _ => by
    show buildFrom (buildStep _ (.scalar (.bool true))) rest = _
    rw [buildStep_scalar awaits]
  | .bool false, _, frames, expected, awaits, rest, _ => by
    show buildFrom (buildStep _ (.scalar (.bool false))) rest = _
    rw [buildStep_scalar awaits]
  | .int n, plain, frames, expected, awaits, rest, stops => by
    cases plain with
    | int short =>
      rw [chars, buildFrom_toString _ short stops, buildStep_scalar awaits]
  | .text s, _, frames, expected, awaits, rest, _ => by
    rw [chars, buildFrom_quoted, buildStep_start awaits frames (.text (some s)) nofun]
    rfl
  | .array [], _, frames, expected, awaits, rest, _ => by
    show buildFrom (buildStep (buildStep _ .openArray) .closeArray) rest = _
    rw [buildStep_start awaits frames .openArray nofun]
    rfl
  | .array (j :: items), plain, frames, expected, awaits, rest, _ => by
    cases plain with
    | array items_plain =>
      obtain ⟨first, others⟩ := List.forall_mem_cons.1 items_plain
      -- The first item stands behind the opening bracket, the others each behind a comma.
      have value := buildFrom_chars j first (.array [] :: frames) .valueOrClose (.inr rfl)
        (charsOfItems items ++ rest) (stops_charsOfItems items rest)
      have remaining := buildFrom_charsOfItems items others [j] frames rest
      have opened : buildStep (.unfinished frames expected) .openArray =
          .unfinished (.array [] :: frames) .valueOrClose :=
        buildStep_start awaits frames .openArray nofun
      rw [chars, List.cons_append, List.append_assoc]
      show buildFrom (buildStep (.unfinished frames expected) .openArray) _ = _
      rw [opened]
      exact value.trans remaining
  | .object [], _, frames, expected, awaits, rest, _ => by
    show buildFrom (buildStep (buildStep _ .openObject) .closeObject) rest = _
    rw [buildStep_start awaits frames .openObject nofun]
    rfl
  | .object ((some key, j) :: fields), plain, frames, expected, awaits, rest, _ => by
    cases plain with
    | object spelled fields_plain =>
      obtain ⟨first, others⟩ := List.forall_mem_cons.1 fields_plain
      have value := buildFrom_chars j first (.object [] (some key) :: frames) .value (.inl rfl)
        (charsOfFields fields ++ rest) (stops_charsOfFields fields rest)
      have remaining := buildFrom_charsOfFields fields (List.forall_mem_cons.1 spelled).2 others
        [(some key, j)] frames rest
      have opened : buildStep (.unfinished frames expected) .openObject =
          .unfinished (.object [] none :: frames) .keyOrClose :=
        buildStep_start awaits frames .openObject nofun
      rw [chars, List.cons_append, List.append_assoc, List.cons_append, List.append_assoc]
      show buildFrom (buildStep (.unfinished frames expected) .openObject) _ = _
      rw [opened, Option.getD_some, buildFrom_key (.inr rfl)]
      exact value.trans remaining
  | .object ((none, _) :: _), plain, _, _, _, _, _ => by
    cases plain with
    | object spelled _ => exact absurd (spelled _ List.mem_cons_self) (by simp)
  | .defect _, plain, _, _, _, _, _ => nomatch plain

theorem buildFrom_charsOfItems : (items : List Json) → (∀ j ∈ items, j.Plain) →
    (done : List Json) → (frames : List Frame) → (rest : List Char) →
    buildFrom (.unfinished (.array done :: frames) .commaOrClose) (charsOfItems items ++ rest) =
      buildFrom (put (.array (done.reverse ++ items)) frames) rest
  | [], _, done, frames, rest => by
    rw [List.append_nil]
    rfl
  | j :: items, plain, done, frames, rest => by
    obtain ⟨first, others⟩ := List.forall_mem_cons.1 plain
    have value := buildFrom_chars j first (.array done :: frames) .value (.inl rfl)
      (charsOfItems items ++ rest) (stops_charsOfItems items rest)
    have remaining := buildFrom_charsOfItems items others (j :: done) frames rest
    rw [List.reverse_cons, List.append_assoc, List.singleton_append] at remaining
    rw [charsOfItems, List.cons_append, List.append_assoc]
    exact value.trans remaining

theorem buildFrom_charsOfFields : (fields : List (Option String × Json)) →
    (∀ f ∈ fields, f.1.isSome = true) → (∀ f ∈ fields, f.2.Plain) →
    (done : List (Option String × Json)) → (frames : List Frame) → (rest : List Char) →
    buildFrom (.unfinished (.object done none :: frames) .commaOrClose)
        (charsOfFields fields ++ rest) =
      buildFrom (put (.object (done.reverse ++ fields)) frames) rest
  | [], _, _, done, frames, rest => by
    rw [List.append_nil]
    rfl
  | (some key, j) :: fields, spelled, plain, done, frames, rest => by
    obtain ⟨first, others⟩ := List.forall_mem_cons.1 plain
    have value := buildFrom_chars j first (.object done (some key) :: frames) .value (.inl rfl)
      (charsOfFields fields ++ rest) (stops_charsOfFields fields rest)
    have remaining := buildFrom_charsOfFields fields (List.forall_mem_cons.1 spelled).2 others
      ((some key, j) :: done) frames rest
    rw [List.reverse_cons, List.append_assoc, List.singleton_append] at remaining
    rw [charsOfFields, List.cons_append, List.append_assoc, List.cons_append, List.append_assoc]
    show buildFrom (.unfinished (.object done none :: frames) .key) _ = _
    rw [Option.getD_some, buildFrom_key (.inl rfl)]
    exact value.trans remaining
  | (none, _) :: _, spelled, _, _, _, _ => absurd (spelled _ List.mem_cons_self) (by simp)

end

/-- What is written is read back, and nothing is left over. -/
theorem parse_print {j : Json} (plain : j.Plain) : parse j.print = ⟨j, false⟩ := by
  have built := buildFrom_chars j plain [] .value (.inl rfl) [] stops_nil
  rw [List.append_nil] at built
  unfold parse
  rw [toList_print, tokens_eq_tokensFrom]
  simp only [buildFrom] at built
  rw [built]
  rfl

end Parliament.Json
