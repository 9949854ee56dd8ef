import ScenarioRunner.Proofs.Replies

/-!
A message is read for its value alone. What is passed over ends where it would end if it was read, so
that a body of strict JSON wraps what the JSON wraps.
-/

namespace ScenarioRunner

namespace Json

/-- A code unit is four hexadecimal digits. -/
theorem digits_of_readUnit {input rest : List Char} {unit : Nat}
    (read : readUnit input = some (unit, rest)) :
    ∃ a b c d, input = a :: b :: c :: d :: rest ∧
      ([a, b, c, d].all fun digit => (hexValue? digit).isSome) = true := by
  unfold readUnit at read
  split at read
  next a b c d after =>
    simp only [Option.bind_eq_bind, Option.bind_eq_some_iff, Option.pure_def, Option.some.injEq,
      Prod.mk.injEq] at read
    obtain ⟨_, first, _, second, _, third, _, fourth, -, rfl⟩ := read
    exact ⟨a, b, c, d, rfl, by simp [first, second, third, fourth]⟩
  next => cases read

/-- An escaped code unit is passed over. -/
theorem skipString_of_readUnit {input rest : List Char} {unit : Nat}
    (read : readUnit input = some (unit, rest)) :
    skipString ('\\' :: 'u' :: input) = skipString rest := by
  obtain ⟨a, b, c, d, rfl, digits⟩ := digits_of_readUnit read
  rw [skipString, if_pos digits]

/-- An escaped character is passed over, be it one code unit or two. -/
theorem skipString_of_readCodePoint {input rest : List Char} {c : Char}
    (read : readCodePoint input = some (c, rest)) :
    skipString ('\\' :: 'u' :: input) = skipString rest := by
  unfold readCodePoint at read
  obtain ⟨⟨high, after⟩, unit, judged⟩ := Option.bind_eq_some_iff.mp read
  rw [skipString_of_readUnit unit]
  dsimp only at judged
  split at judged
  · split at judged
    next second =>
      obtain ⟨⟨low, last⟩, pair, joined⟩ := Option.bind_eq_some_iff.mp judged
      dsimp only at joined
      split at joined
      · obtain ⟨-, rfl⟩ := Prod.mk.inj (Option.some.inj joined)
        exact skipString_of_readUnit pair
      · cases joined
    next => cases judged
  · split at judged
    · cases judged
    · obtain ⟨-, rfl⟩ := Prod.mk.inj (Option.some.inj judged)
      rfl

/-- A string that can be read is passed over to its end. -/
theorem skipString_of_readString {fuel : Nat} {gathered input rest : List Char} {text : String}
    (read : readString fuel gathered input = some (text, rest)) : skipString input = some rest := by
  induction fuel generalizing gathered input with
  | zero => cases read
  | succ fuel ih =>
      unfold readString at read
      split at read
      next after =>
        cases read
        rfl
      next after =>
        split at read
        next c later point =>
          rw [skipString_of_readCodePoint point]
          exact ih read
        next => cases read
      next c after other =>
        split at read
        next meant escape =>
          have passed : skipString ('\\' :: c :: after) = skipString after := by
            rw [skipString, if_pos (by rw [escape]; rfl)]
            exact fun _ _ _ _ _ same _ => other same
          rw [passed]
          exact ih read
        next => cases read
      next c after unquoted _ unescaped =>
        split at read
        · cases read
        next plain =>
          rw [skipString, if_neg plain]
          · exact ih read
          · exact unquoted
          · exact fun _ _ _ _ _ backslash following => unescaped _ _ backslash following
          · exact unescaped
      next => cases read

theorem split_of_readNumber {input rest : List Char} {number : JsonNumber}
    (read : readNumber input = some (number, rest)) :
    (splitNumber input).map (·.2) = some rest := by
  obtain ⟨⟨parts, after⟩, split, made⟩ := Option.bind_eq_some_iff.mp read
  obtain ⟨_, -, same⟩ := Option.bind_eq_some_iff.mp made
  obtain ⟨-, rfl⟩ := Prod.mk.inj (Option.some.inj same)
  rw [split]
  rfl

/-- With so much fuel a value that can be read is passed over to the same end, whatever depth is allowed
where it is read. -/
structure SkipsWhatReads (fuel : Nat) : Prop where
  value : ∀ {levels : Nat} {input rest : List Char} {value : Json},
    readValue fuel levels input = some (value, rest) → skipValue fuel input = some rest
  items : ∀ {levels : Nat} {input rest : List Char} {items : List Json},
    readItems fuel levels input = some (items, rest) → skipItems fuel input = some rest
  members : ∀ {levels : Nat} {input rest : List Char} {members : List (String × Json)},
    readMembers fuel levels input = some (members, rest) → skipMembers fuel input = some rest

namespace SkipsWhatReads

variable {fuel levels : Nat} {input rest : List Char}

theorem next_value (skips : SkipsWhatReads fuel) {value : Json}
    (read : readValue (fuel + 1) levels input = some (value, rest)) :
    skipValue (fuel + 1) input = some rest := by
  unfold readValue at read
  unfold skipValue
  generalize skipSpace input = spaced at read ⊢
  split at read
  · cases read
    rfl
  · cases read
    rfl
  · cases read
    rfl
  next quoted =>
    obtain ⟨_, string, same⟩ := Option.map_eq_some_iff.mp read
    cases same
    exact skipString_of_readString string
  next listed =>
    split at read
    · cases read
    · generalize skipSpace listed = inside at read ⊢
      split at read
      · cases read
        rfl
      · obtain ⟨_, each, same⟩ := Option.map_eq_some_iff.mp read
        cases same
        exact skips.items each
  next braced =>
    split at read
    · cases read
    · generalize skipSpace braced = inside at read ⊢
      split at read
      · cases read
        rfl
      · obtain ⟨_, each, same⟩ := Option.map_eq_some_iff.mp read
        cases same
        exact skips.members each
  next =>
    obtain ⟨_, digits, same⟩ := Option.map_eq_some_iff.mp read
    cases same
    exact split_of_readNumber digits

theorem next_items (skips : SkipsWhatReads fuel) {items : List Json}
    (read : readItems (fuel + 1) levels input = some (items, rest)) :
    skipItems (fuel + 1) input = some rest := by
  unfold readItems at read
  unfold skipItems
  split at read
  next => cases read
  next item after first =>
    rw [skips.value first]
    dsimp only
    generalize skipSpace after = closing at read ⊢
    split at read
    next later =>
      obtain ⟨_, others, same⟩ := Option.map_eq_some_iff.mp read
      cases same
      exact skips.items others
    next =>
      cases read
      rfl
    next => cases read

theorem next_members (skips : SkipsWhatReads fuel) {members : List (String × Json)}
    (read : readMembers (fuel + 1) levels input = some (members, rest)) :
    skipMembers (fuel + 1) input = some rest := by
  unfold readMembers at read
  unfold skipMembers
  generalize skipSpace input = spaced at read ⊢
  split at read
  next quoted =>
    split at read
    next => cases read
    next name after string =>
      rw [skipString_of_readString string]
      dsimp only
      generalize skipSpace after = colon at read ⊢
      split at read
      next behind =>
        split at read
        next => cases read
        next value last held =>
          rw [skips.value held]
          dsimp only
          generalize skipSpace last = closing at read ⊢
          split at read
          next later =>
            obtain ⟨_, others, same⟩ := Option.map_eq_some_iff.mp read
            cases same
            exact skips.members others
          next =>
            cases read
            rfl
          next => cases read
      next => cases read
  next => cases read

end SkipsWhatReads

theorem skipsWhatReads (fuel : Nat) : SkipsWhatReads fuel := by
  induction fuel with
  | zero => exact ⟨nofun, nofun, nofun⟩
  | succ fuel ih => exact ⟨ih.next_value, ih.next_items, ih.next_members⟩

end Json

namespace WebDriver

/-- A member that can be read is read as the value of a message, or passed over. -/
theorem readMember_of_read {name : String} {fuel : Nat} {input rest : List Char} {value : Json}
    (read : Json.readValue fuel (Json.depthLimit - 1) input = some (value, rest)) :
    readMember name fuel input = some (if name == "value" then value else .null, rest) := by
  unfold readMember
  split
  · exact read
  · rw [(Json.skipsWhatReads fuel).value read]
    rfl

/-- Whatever is put in the place of other members, the values of a message stay. -/
theorem filter_kept {name : String} {value : Json} {kept members : List (String × Json)}
    (alike : kept.filter (·.1 == "value") = members.filter (·.1 == "value")) :
    ((name, if name == "value" then value else .null) :: kept).filter (·.1 == "value") =
      ((name, value) :: members).filter (·.1 == "value") := by
  rw [List.filter_cons, List.filter_cons, alike]
  dsimp only
  split
  · rfl
  · rfl

/-- Members that can be read are kept as far as they are values of the message. -/
theorem readMembers_of_read {fuel : Nat} {input rest : List Char} {members : List (String × Json)}
    (read : Json.readMembers fuel (Json.depthLimit - 1) input = some (members, rest)) :
    ∃ kept, readMembers fuel input = some (kept, rest) ∧
      kept.filter (·.1 == "value") = members.filter (·.1 == "value") := by
  induction fuel generalizing input members with
  | zero => cases read
  | succ fuel ih =>
      unfold Json.readMembers at read
      unfold readMembers
      generalize Json.skipSpace input = spaced at read ⊢
      split at read
      next quoted =>
        split at read
        next => cases read
        next name after string =>
          simp only [string]
          generalize Json.skipSpace after = colon at read ⊢
          split at read
          next behind =>
            split at read
            next => cases read
            next value last held =>
              simp only [readMember_of_read held]
              generalize Json.skipSpace last = closing at read ⊢
              split at read
              next later =>
                obtain ⟨_, others, same⟩ := Option.map_eq_some_iff.mp read
                cases same
                obtain ⟨kept, again, alike⟩ := ih others
                exact ⟨_, congrArg (Option.map _) again, filter_kept alike⟩
              next =>
                cases read
                exact ⟨_, rfl, filter_kept rfl⟩
              next => cases read
          next => cases read
      next => cases read

/-- A message has the payload of the value that it would be read as. Where it is no message, that value
has none. -/
theorem readMessage_of_read {fuel : Nat} {input rest : List Char} {value : Json}
    (read : Json.readValue (fuel + 1) Json.depthLimit input = some (value, rest)) :
    (∃ message, readMessage fuel input = some (message, rest) ∧
      envelope message = envelope value) ∨
    readMessage fuel input = none ∧ envelope value = .error .malformed := by
  unfold Json.readValue at read
  unfold readMessage
  generalize Json.skipSpace input = spaced at read ⊢
  rw [show Json.depthLimit = Json.depthLimit - 1 + 1 from rfl] at read
  split at read
  · cases read
    exact .inr ⟨rfl, rfl⟩
  · cases read
    exact .inr ⟨rfl, rfl⟩
  · cases read
    exact .inr ⟨rfl, rfl⟩
  next quoted =>
    obtain ⟨_, string, same⟩ := Option.map_eq_some_iff.mp read
    cases same
    exact .inr ⟨rfl, rfl⟩
  next listed =>
    simp only at read ⊢
    generalize Json.skipSpace listed = inside at read ⊢
    split
    · cases read
      exact .inl ⟨_, rfl, rfl⟩
    next open_still =>
      split at read
      next => exact absurd rfl (open_still _)
      next =>
        obtain ⟨⟨items, _⟩, each, same⟩ := Option.map_eq_some_iff.mp read
        cases same
        exact .inl ⟨.array items, congrArg (Option.map _) each, rfl⟩
  next braced =>
    simp only at read ⊢
    generalize Json.skipSpace braced = inside at read ⊢
    split
    · cases read
      exact .inl ⟨_, rfl, rfl⟩
    next open_still =>
      split at read
      next => exact absurd rfl (open_still _)
      next =>
        obtain ⟨⟨members, _⟩, each, same⟩ := Option.map_eq_some_iff.mp read
        cases same
        obtain ⟨kept, again, alike⟩ := readMembers_of_read each
        exact .inl ⟨.object kept, congrArg (Option.map _) again, by simp only [envelope, alike]⟩
  next unlisted unbraced =>
    obtain ⟨_, digits, same⟩ := Option.map_eq_some_iff.mp read
    cases same
    refine .inr ⟨?_, rfl⟩
    split
    next opened => exact absurd rfl (unbraced _)
    next opened => exact absurd rfl (unlisted _)
    next => rfl

/-- A body of strict JSON wraps what the JSON wraps. -/
theorem Response.wraps_iff_of_parse? {response : Response} {value payload : Json}
    (parsed : Json.parse? response.body = some value) :
    response.Wraps payload ↔ Envelops value payload := by
  unfold Json.parse? at parsed
  unfold Wraps message?
  dsimp only at parsed ⊢
  split at parsed
  next read =>
    split at parsed
    next ended =>
      cases parsed
      simp only [← envelope_eq_ok_iff]
      rcases readMessage_of_read read with ⟨message, opened, same⟩ | ⟨closed, malformed⟩
      · simp only [opened, ended, if_true, Option.some.injEq, exists_eq_left', same]
      · simp only [closed, reduceCtorEq, false_and, exists_false, malformed]
    next => cases parsed
  next => cases parsed

/-- A member beside the value may hold a number that is no JSON number here. It is passed over. -/
example :
    let body := "\x7b\"value\":null,\"other\":1e999\x7d"
    (Json.parse? body).isNone = true ∧ (message? body).isSome = true := by
  decide +kernel

end WebDriver

end ScenarioRunner
