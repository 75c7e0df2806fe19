import EquipmentBooking.Proofs.Url.PlainPath

/-! Slashes at the end of a URL's path, in front of its query and fragment. They are read as empty
segments and change nothing else, so two texts that differ in them stand for URLs that differ in them. -/
namespace EquipmentBooking.Url

section Paths

variable {scheme s : List Char} {passed : List (List Char)}

theorem isPlain_nil : IsPlain [] where
  no_break := List.forall_mem_nil _
  not_double := rfl
  not_single := rfl

/-- A slash at the end leaves an empty segment behind, unless a step has left one there already. -/
theorem Walk.above_along_concat_nil (hSome : passed ≠ []) (w : Walk) :
    (along false w (passed ++ [[]])).above = (along false w passed).above ∨
      (along false w (passed ++ [[]])).above = [] :: (along false w passed).above := by
  induction passed generalizing w with
  | nil => exact absurd rfl hSome
  | cons s rest ih =>
      cases rest with
      | nil =>
          have hSlash : (along false w [s, []]).above = [] :: (w.pass false s).above := by
            rw [along, along, isPlain_nil.finish, isPlain_nil.pass]
            rfl
          rw [List.singleton_append, hSlash, along]
          rcases w.finish_above s with hSame | hMore
          · exact .inr (by rw [hSame])
          · exact .inl hMore.symm
      | cons next rest => exact ih (List.cons_ne_nil _ _) _

theorem dropTail_joinSegments_of_above {shorter longer : Walk}
    (h : longer.above = shorter.above ∨ longer.above = [] :: shorter.above) :
    Text.dropTail (· == '/') (joinSegments longer.segments) =
      Text.dropTail (· == '/') (joinSegments shorter.segments) := by
  rcases h with hSame | hMore
  · rw [Walk.segments, hSame, Walk.segments]
  · rw [Walk.segments, hMore, List.reverse_cons, joinSegments_append, Walk.segments]
    exact Text.dropTail_append_of_forall (by simp [joinSegments]) _

theorem dropSlash_cons {c : Char} (hBreak : isBreak c = false) (s : List Char) :
    dropSlash scheme (c :: s) = if isSlashIn scheme c then s else c :: s := by
  rw [dropSlash, behindSlash?, List.dropWhile_cons_of_neg (by simp [hBreak])]
  simp only
  split <;> rfl

theorem pieces_dropSlash_concat (h : ∀ c ∈ s, isBreak c = false) (hSome : s ≠ []) :
    pieces scheme (dropSlash scheme (s ++ ['/'])) = pieces scheme (dropSlash scheme s) ++ [[]] := by
  have hConcat (t : List Char) : pieces scheme (t ++ ['/']) = pieces scheme t ++ [[]] :=
    splitSegments_append rfl t []
  cases s with
  | nil => exact absurd rfl hSome
  | cons c s =>
      have hBreak := h c List.mem_cons_self
      rw [List.cons_append, dropSlash_cons hBreak, dropSlash_cons hBreak]
      split
      · exact hConcat s
      · exact hConcat (c :: s)

/-- One more slash at the end of a path shows nowhere but at the end of its written form. -/
theorem dropTail_readPath_concat (hSpecial : isSpecialScheme scheme = true)
    (hFile : isFileScheme scheme = false) (h : ∀ c ∈ s, isBreak c = false) :
    Text.dropTail (· == '/') (readPath scheme (s ++ ['/'])).chars =
      Text.dropTail (· == '/') (readPath scheme s).chars := by
  rw [readPath_of_special hSpecial hFile, readPath_of_special hSpecial hFile, Path.chars, Path.chars]
  by_cases hSome : s = []
  · subst hSome
    rw [List.nil_append, dropSlash_slash]
    rfl
  · rw [pieces_dropSlash_concat h hSome]
    exact dropTail_joinSegments_of_above (Walk.above_along_concat_nil (splitSegments_ne_nil _ _) {})

/-- However many slashes stand at the end of a path, what is in front of them stays the same. -/
theorem dropTail_readPath_slashes (hSpecial : isSpecialScheme scheme = true)
    (hFile : isFileScheme scheme = false) (h : ∀ c ∈ s, isBreak c = false) (slashes : Nat) :
    Text.dropTail (· == '/') (readPath scheme (s ++ List.replicate slashes '/')).chars =
      Text.dropTail (· == '/') (readPath scheme s).chars := by
  induction slashes with
  | zero => simp
  | succ slashes ih =>
      have hUnbroken : ∀ c ∈ s ++ List.replicate slashes '/', isBreak c = false := by
        intro c hc
        rcases List.mem_append.mp hc with hFront | hSlash
        · exact h c hFront
        · rw [List.eq_of_mem_replicate hSlash]
          rfl
      rw [List.replicate_succ', ← List.append_assoc, dropTail_readPath_concat hSpecial hFile hUnbroken, ih]

end Paths

section Tails

variable {scheme s front back : List Char} {p : Char → Bool}

/-- A text that begins where a query or a fragment does, if it begins at all. -/
def IsTail (s : List Char) : Prop :=
  ∀ c, s.head? = some c → c = '?' ∨ c = '#'

def IsFront (s : List Char) : Prop :=
  ∀ c ∈ s, c ≠ '?' ∧ c ≠ '#'

instance (s : List Char) : Decidable (IsFront s) :=
  List.decidableBAll (fun c : Char => c ≠ '?' ∧ c ≠ '#') s

theorem takeWhile_append_of_head? (h : ∀ c, back.head? = some c → p c = false) (s : List Char) :
    (s ++ back).takeWhile p = s.takeWhile p := by
  induction s with
  | nil =>
      cases back with
      | nil => rfl
      | cons c back => simp [h c rfl]
  | cons c s ih =>
      rw [List.cons_append, List.takeWhile_cons, List.takeWhile_cons, ih]

theorem dropWhile_append_of_head? (h : ∀ c, back.head? = some c → p c = false) (s : List Char) :
    (s ++ back).dropWhile p = s.dropWhile p ++ back := by
  induction s with
  | nil =>
      cases back with
      | nil => rfl
      | cons c back => simp [h c rfl]
  | cons c s ih =>
      rw [List.cons_append, List.dropWhile_cons, List.dropWhile_cons, ih]
      split <;> rfl

theorem splitTail_append (h : IsFront s) (t : List Char) :
    splitTail (s ++ t) = (s ++ (splitTail t).1, (splitTail t).2) := by
  have hHash : ∀ c ∈ s, (c != '#') = true := fun c hc => by simp [(h c hc).2]
  have hMark : ∀ c ∈ s, (c != '?') = true := fun c hc => by simp [(h c hc).1]
  simp only [splitTail, List.dropWhile_append_of_pos hHash, List.takeWhile_append_of_pos hHash,
    List.dropWhile_append_of_pos hMark, List.takeWhile_append_of_pos hMark]

theorem IsTail.splitTail_fst (h : IsTail back) : (splitTail back).1 = [] := by
  cases back with
  | nil => rfl
  | cons c back =>
      rcases h c rfl with rfl | rfl
      · simp [splitTail]
      · simp [splitTail]

theorem splitTail_front (h : IsFront s) (hBack : IsTail back) :
    splitTail (s ++ back) = (s, (splitTail back).2) := by
  rw [splitTail_append h, hBack.splitTail_fst, List.append_nil]

end Tails

section Authorities

variable {scheme s behind : List Char} {authority : Authority} {spilled : List Char}

theorem suffix_splitUser {before after : List Char} (h : splitUser s = some (before, after)) :
    after <:+ s := by
  induction s generalizing before with
  | nil => cases h
  | cons c rest ih =>
      rw [splitUser] at h
      split at h
      · next front tail hRest =>
        cases h
        exact (ih hRest).trans (List.suffix_cons c rest)
      · split at h
        · cases h
          exact List.suffix_cons _ _
        · cases h

theorem suffix_splitHost (inBrackets : Bool) (s : List Char) : (splitHost inBrackets s).2 <:+ s := by
  induction s generalizing inBrackets with
  | nil => exact List.suffix_rfl
  | cons c rest ih =>
      rw [splitHost]
      split
      · exact List.suffix_rfl
      · exact (ih _).trans (List.suffix_cons c rest)

theorem readServer_nil (hSpecial : isSpecialScheme scheme = true) (hasUser : Bool) (port : List Char) :
    readServer scheme hasUser [] port = .error .emptyHost := by
  simp [readServer, hSpecial]

/-- A special URL has a host. What stands behind its authority makes no difference to it. -/
theorem readAuthority_congr (hSpecial : isSpecialScheme scheme = true) (behind other : List Char) :
    readAuthority scheme s behind = readAuthority scheme s other := by
  by_cases hSign : s = ['@']
  · subst hSign
    have hEmpty (t : List Char) : readAuthority scheme ['@'] t = .error .emptyHost := by
      simp only [readAuthority, splitUser, Option.getD_some, if_pos, splitHost]
      rw [readServer_nil hSpecial]
      split <;> rfl
    rw [hEmpty, hEmpty]
  · simp [readAuthority, hSign]

theorem readAuthority_nil (hSpecial : isSpecialScheme scheme = true) :
    readAuthority scheme [] behind = .error .emptyHost := by
  simp only [readAuthority, splitUser, Option.getD_none, splitHost]
  rw [readServer_nil hSpecial]
  rfl

theorem suffix_of_readAuthority (h : readAuthority scheme s behind = .ok (authority, spilled)) :
    spilled <:+ s := by
  have hServer : ((splitUser s).getD ([], s)).2 <:+ s := by
    cases hUser : splitUser s with
    | none => exact List.suffix_rfl
    | some parts =>
        obtain ⟨before, after⟩ := parts
        exact suffix_splitUser hUser
  rw [readAuthority] at h
  simp only at h
  split at h
  · cases h
  · simp only [bind_eq_ok, Prod.exists, Except.ok.injEq, Prod.mk.injEq] at h
    obtain ⟨_, _, -, -, rfl⟩ := h
    exact (List.dropWhile_suffix _).trans ((suffix_splitHost false _).trans hServer)

/-- What an authority leaves over of a text is part of it. -/
theorem subset_of_readAuthority {p : Char → Bool}
    (h : readAuthority scheme (s.takeWhile p) behind = .ok (authority, spilled)) :
    spilled ++ s.dropWhile p ⊆ s := by
  intro c hc
  rcases List.mem_append.mp hc with hSpilled | hLater
  · exact (List.takeWhile_sublist p).subset ((suffix_of_readAuthority h).subset hSpilled)
  · exact (List.dropWhile_sublist p).subset hLater

end Authorities

section Texts

variable {scheme rest front back s t : List Char} {c : Char} {url : Url}

theorem IsFront.of_subset (h : IsFront s) (hSubset : t ⊆ s) : IsFront t :=
  fun c hc => h c (hSubset hc)

/-- What begins a query or fragment is not dropped, and is no part of a scheme. -/
theorem IsTail.head (h : IsTail (c :: back)) : isBreak c = false ∧ isSchemeChar c = false := by
  rcases h c rfl with rfl | rfl
  · decide
  · decide

theorem IsTail.unbroken (h : IsTail back) : IsTail (unbroken back) := by
  cases back with
  | nil => exact h
  | cons c back =>
      have hKept : Url.unbroken (c :: back) = c :: Url.unbroken back := by
        simp [Url.unbroken, h.head.1]
      intro d hd
      rw [hKept] at hd
      exact h d hd

theorem IsTail.not_slash (h : IsTail back) : ∀ c, back.head? = some c → isSlashIn scheme c = false := by
  intro c hc
  rcases h c hc with rfl | rfl
  · simp [isSlashIn]
  · simp [isSlashIn]

/-- What reading a URL makes of the text in front of query and fragment and of the text behind it. -/
theorem parsePlaced_eq_ok_iff (hSpecial : isSpecialScheme scheme = true) (hFront : IsFront front)
    (hBack : IsTail back) :
    parsePlaced scheme (front ++ back) = .ok url ↔
      ∃ authority spilled,
        readAuthority scheme (front.takeWhile fun c => !endsAuthority scheme c) [] =
          .ok (authority, spilled) ∧
        url = withTail scheme (some authority)
          (readPath scheme (spilled ++ front.dropWhile fun c => !endsAuthority scheme c))
          (splitTail back).2.1 (splitTail back).2.2 := by
  have hEnds : ∀ c, back.head? = some c → (!endsAuthority scheme c) = false := by
    intro c hc
    rcases hBack c hc with rfl | rfl
    · simp [endsAuthority]
    · simp [endsAuthority]
  simp only [parsePlaced, bind_eq_ok, Prod.exists, Except.ok.injEq]
  rw [takeWhile_append_of_head? hEnds, dropWhile_append_of_head? hEnds, readAuthority_congr hSpecial _ []]
  refine exists_congr fun authority => exists_congr fun spilled => and_congr_right fun hRead => ?_
  have hPath := hFront.of_subset (subset_of_readAuthority hRead)
  rw [← List.append_assoc, splitTail_front hPath hBack]
  exact eq_comm

/-- A special URL begins with its host, and a query does not. -/
theorem parsePlaced_tail_ne_ok (hSpecial : isSpecialScheme scheme = true) (hBack : IsTail back) :
    parsePlaced scheme back ≠ .ok url := by
  intro hParse
  rw [← List.nil_append back, parsePlaced_eq_ok_iff hSpecial (List.forall_mem_nil _) hBack] at hParse
  obtain ⟨authority, spilled, hRead, -⟩ := hParse
  rw [List.takeWhile_nil, readAuthority_nil hSpecial] at hRead
  cases hRead

/-- The slashes lie in front of query and fragment, which are cut off where they were before. -/
theorem parsePlaced_slashes (hSpecial : isSpecialScheme scheme = true)
    (hFile : isFileScheme scheme = false) (hFront : IsFront front)
    (hUnbroken : ∀ c ∈ front, isBreak c = false) (hBack : IsTail back)
    (h : parsePlaced scheme (front ++ back) = .ok url) (slashes : Nat) :
    ∃ path, parsePlaced scheme (front ++ (List.replicate slashes '/' ++ back)) =
        .ok { url with path := path } ∧
      Text.dropTail (· == '/') path.chars = Text.dropTail (· == '/') url.path.chars := by
  have hSlashes : ∀ c ∈ List.replicate slashes '/', c = '/' := fun c => List.eq_of_mem_replicate
  have hLonger : IsFront (front ++ List.replicate slashes '/') := by
    intro c hc
    rcases List.mem_append.mp hc with hOld | hNew
    · exact hFront c hOld
    · rw [hSlashes c hNew]
      decide
  have hEnds : ∀ c, (List.replicate slashes '/').head? = some c →
      (!endsAuthority scheme c) = false := by
    intro c hc
    rw [hSlashes c (List.mem_of_head? hc)]
    rfl
  obtain ⟨authority, spilled, hRead, rfl⟩ := (parsePlaced_eq_ok_iff hSpecial hFront hBack).mp h
  refine ⟨readPath scheme ((spilled ++ front.dropWhile fun c => !endsAuthority scheme c) ++
    List.replicate slashes '/'), ?_, ?_⟩
  · rw [← List.append_assoc, parsePlaced_eq_ok_iff hSpecial hLonger hBack]
    refine ⟨authority, spilled, ?_, ?_⟩
    · rw [takeWhile_append_of_head? hEnds]
      exact hRead
    · rw [dropWhile_append_of_head? hEnds, List.append_assoc]
      rfl
  · apply dropTail_readPath_slashes hSpecial hFile
    exact fun c hc => hUnbroken c (subset_of_readAuthority hRead hc)

theorem readScheme?_of_colon {name : List Char} (h : ∀ c ∈ name, (c != ':') = true)
    (rest : List Char) :
    readScheme? (name ++ ':' :: rest) =
      if (unbroken name).head?.any isSchemeStart && (unbroken name).all isSchemeChar then
        some ((unbroken name).map Char.toLower, rest)
      else none := by
  have hFront : (name ++ ':' :: rest).takeWhile (· != ':') = name := by
    rw [List.takeWhile_append_of_pos h]
    simp
  have hBehind : (name ++ ':' :: rest).dropWhile (· != ':') = ':' :: rest := by
    rw [List.dropWhile_append_of_pos h]
    simp
  rw [readScheme?, hFront, hBehind]

theorem exists_of_readScheme? (h : readScheme? s = some (scheme, rest)) :
    ∃ name, s = name ++ ':' :: rest ∧ (∀ c ∈ name, (c != ':') = true) ∧
      ∀ c ∈ unbroken name, isSchemeChar c = true := by
  rw [readScheme?] at h
  split at h
  · cases h
  · next colon behind hBehind =>
    split at h
    · next hScheme =>
      cases h
      have hColon : colon = ':' := by
        have hStop := List.head?_dropWhile_not (· != ':') s
        rw [hBehind] at hStop
        simpa using hStop
      rw [Bool.and_eq_true, List.all_eq_true] at hScheme
      refine ⟨s.takeWhile (· != ':'), ?_, fun c => List.mem_takeWhile_imp, hScheme.2⟩
      rw [hColon] at hBehind
      rw [← hBehind, List.takeWhile_append_dropWhile]
    · cases h

/-- The scheme stands in front of query and fragment, and what is behind it makes no difference to it. -/
theorem readScheme?_front (hBack : IsTail back) (h : readScheme? (front ++ back) = some (scheme, rest)) :
    ∃ behind, rest = behind ++ back ∧ behind <:+ front ∧
      ∀ t, readScheme? (front ++ t) = some (scheme, behind ++ t) := by
  obtain ⟨name, hText, hName, hChars⟩ := exists_of_readScheme? h
  rcases List.append_eq_append_iff.mp hText with ⟨more, rfl, rfl⟩ | ⟨more, rfl, hRest⟩
  · -- the colon would stand in the query or fragment
    cases more with
    | nil => rcases hBack ':' rfl with hMark | hMark <;> cases hMark
    | cons c more =>
        have hMem : c ∈ unbroken (front ++ c :: more) := by simp [unbroken, hBack.head.1]
        have hChar := hChars c hMem
        rw [hBack.head.2] at hChar
        cases hChar
  · cases more with
    | nil =>
        rw [List.nil_append] at hRest
        rcases hBack ':' (by rw [← hRest]; rfl) with hMark | hMark <;> cases hMark
    | cons colon behind =>
        obtain ⟨rfl, rfl⟩ := List.cons.inj hRest
        refine ⟨behind, rfl, ⟨name ++ [':'], by simp⟩, fun t => ?_⟩
        rw [hText, readScheme?_of_colon hName] at h
        rw [List.append_assoc, List.cons_append, readScheme?_of_colon hName]
        split at h
        · next hScheme =>
          cases h
          rw [if_pos hScheme]
        · cases h

theorem unbroken_append (s t : List Char) : unbroken (s ++ t) = unbroken s ++ unbroken t :=
  List.filter_append s t

theorem dropWhile_append_of_ne_nil {p : Char → Bool} (h : s.dropWhile p ≠ []) (t : List Char) :
    (s ++ t).dropWhile p = s.dropWhile p ++ t := by
  rw [List.dropWhile_append, if_neg (List.isEmpty_iff.not.mpr h)]

/-- Slashes between the path and the query or fragment of a special URL are added to its path. -/
theorem parseTrimmed_slashes (hSpecial : isSpecialScheme url.scheme = true)
    (hFile : isFileScheme url.scheme = false) (hFront : IsFront front) (hBack : IsTail back)
    (h : parseTrimmed (front ++ back) = .ok url) (slashes : Nat) :
    ∃ path, parseTrimmed (front ++ (List.replicate slashes '/' ++ back)) =
        .ok { url with path := path } ∧
      Text.dropTail (· == '/') path.chars = Text.dropTail (· == '/') url.path.chars := by
  obtain ⟨rest, hScheme, hPlaced⟩ := parsePlaced_of_parseTrimmed hSpecial hFile h
  obtain ⟨behind, rfl, hSuffix, hLonger⟩ := readScheme?_front hBack hScheme
  have hSlashes : unbroken (List.replicate slashes '/') = List.replicate slashes '/' := by
    simp [unbroken, isBreak]
  rw [unbroken_append, dropWhile_append_of_head? hBack.unbroken.not_slash] at hPlaced
  have hServer : (unbroken behind).dropWhile (isSlashIn url.scheme) ≠ [] := by
    intro hNone
    rw [hNone] at hPlaced
    exact parsePlaced_tail_ne_ok hSpecial hBack.unbroken hPlaced
  have hSubset : (unbroken behind).dropWhile (isSlashIn url.scheme) ⊆ front := fun c hc =>
    hSuffix.subset (List.mem_of_mem_filter ((List.dropWhile_sublist _).subset hc))
  have hUnbroken : ∀ c ∈ (unbroken behind).dropWhile (isSlashIn url.scheme), isBreak c = false := by
    intro c hc
    simpa using (List.mem_filter.mp ((List.dropWhile_sublist _).subset hc)).2
  obtain ⟨path, hPath, hSame⟩ := parsePlaced_slashes hSpecial hFile (hFront.of_subset hSubset) hUnbroken
    hBack.unbroken hPlaced slashes
  refine ⟨path, ?_, hSame⟩
  rw [parseTrimmed, hLonger]
  simp only
  rw [if_neg (by simp [hFile]), if_pos hSpecial, unbroken_append, unbroken_append, hSlashes,
    dropWhile_append_of_ne_nil hServer]
  exact hPath

/-- A text of a URL with slashes added to another one where its path ends, in front of query and fragment.
What stands around either of them does not count. -/
def AddsSlashes (text longer : String) : Prop :=
  ∃ front back slashes, IsFront front ∧ IsTail back ∧ trimEdges text.toList = front ++ back ∧
    trimEdges longer.toList = front ++ (List.replicate slashes '/' ++ back)

/-- Slashes that are added to the path of a special URL stay at its end. -/
theorem parse_slashes {text longer : String} (h : parse text = .ok url)
    (hSpecial : isSpecialScheme url.scheme = true) (hFile : isFileScheme url.scheme = false)
    (hAdds : AddsSlashes text longer) :
    ∃ path, parse longer = .ok { url with path := path } ∧
      Text.dropTail (· == '/') path.chars = Text.dropTail (· == '/') url.path.chars := by
  obtain ⟨front, back, slashes, hFront, hBack, hText, hLonger⟩ := hAdds
  rw [parse, hText] at h
  rw [parse, hLonger]
  exact parseTrimmed_slashes hSpecial hFile hFront hBack h slashes

end Texts

end EquipmentBooking.Url
