import ToolPolicy.Proofs.Except
import ToolPolicy.Proofs.Text.Utf8
import ToolPolicy.Url.Basic

/-! Authorities that end in a blank or in a control character are refused. -/

namespace ToolPolicy.Url

/-- A character that is dropped at the ends of a text: a blank or a control character. -/
def isEdge (c : Char) : Bool := c.toNat ≤ 0x20

/-- What holds of the first codes holds of the characters that are dropped at the ends of a text. -/
theorem forall_isEdge {P : Char → Prop} (all : ∀ n < 0x21, P (Char.ofNat n)) {c : Char}
    (edge : isEdge c = true) : P c := by
  have here := all c.toNat (Nat.lt_succ_of_le (of_decide_eq_true edge))
  rwa [Char.ofNat_toNat] at here

/-! ### Bytes -/

/-- A byte of the ASCII range among others is a character of what they encode. -/
theorem mem_of_decodeFrom {index : Nat} {bytes : List UInt8} {cs : List Char}
    (decoded : Utf8.decodeFrom index bytes = .ok cs) {b : UInt8} (ascii : b < 0x80)
    (member : b ∈ bytes) : Utf8.charOf b [] ∈ cs := by
  -- The bytes are those of the characters, so that the byte belongs to one of them.
  rw [← Utf8.encode_of_decodeFrom decoded, List.mem_flatMap] at member
  obtain ⟨c, among, within⟩ := member
  cases encoded : String.utf8EncodeChar c with
  | nil =>
    rw [encoded] at within
    cases within
  | cons first rest =>
    obtain ⟨wide, continues, same⟩ := Utf8.charOf_encode encoded
    rw [encoded] at within
    rcases List.mem_cons.mp within with rfl | later
    · -- A byte of this range is all there is of its character.
      have alone : rest = [] := by simpa [Utf8.width, ascii] using wide.symm
      rw [alone] at same
      exact same ▸ among
    · exact absurd ascii (UInt8.not_lt.mpr (Utf8.le_of_continues continues later))

/-- A character that is dropped at the ends of a text is among the bytes that a text stands for. -/
theorem mem_decode_of_mem {cs : List Char} {c : Char} (edge : isEdge c = true) (member : c ∈ cs) :
    UInt8.ofNat c.toNat ∈ Percent.decode cs := by
  -- Such a character is never part of an escape, so that it stands for its own byte.
  have noDigit : Percent.digit? c = none :=
    forall_isEdge (P := fun c => Percent.digit? c = none) (by decide) edge
  have noPercent : c ≠ '%' := forall_isEdge (P := (· ≠ '%')) (by decide) edge
  induction cs using Percent.decode.induct with
  | case1 => cases member
  -- Three characters that are an escape: none of them is the one looked for.
  | case2 a b rest high low ofB ofA ih =>
    have later : c ∈ rest := by
      simp only [List.mem_cons] at member
      rcases member with rfl | rfl | rfl | later
      · exact absurd rfl noPercent
      · rw [noDigit] at ofA
        cases ofA
      · rw [noDigit] at ofB
        cases ofB
      · exact later
    simp only [Percent.decode, ofA, ofB]
    exact List.mem_cons_of_mem _ (ih later)
  -- A percent sign without a byte behind it stands for itself.
  | case3 a b rest noByte ih =>
    have later := (List.mem_cons.mp member).resolve_left noPercent
    rw [Percent.decode]
    split
    next high low ofA ofB => exact (noByte high low ofA ofB).elim
    next => exact List.mem_cons_of_mem _ (ih later)
  | case4 d rest noByte ih =>
    rw [Percent.decode]
    · rcases List.mem_cons.mp member with rfl | later
      · have alone : (String.singleton c).toUTF8.toList = [UInt8.ofNat c.toNat] :=
          forall_isEdge
            (P := fun c => (String.singleton c).toUTF8.toList = [UInt8.ofNat c.toNat])
            (by decide +kernel) edge
        rw [alone]
        exact List.mem_cons_self
      · exact List.mem_append_right _ (ih later)
    · exact fun a b more is rest => noByte a b more is rest

/-! ### Servers -/

/-- No domain name has a character in it that is dropped at the ends of a text. -/
theorem domainText_ne_ok {cs : List Char} {c : Char} (edge : isEdge c = true) (member : c ∈ cs)
    (domain : List Char) : domainText cs ≠ .ok domain := by
  intro read
  -- There are thirty-three such characters, and each fact about them is checked one by one.
  have ascii : UInt8.ofNat c.toNat < 0x80 :=
    forall_isEdge (P := fun c => UInt8.ofNat c.toNat < 0x80) (by decide) edge
  have same : Utf8.charOf (UInt8.ofNat c.toNat) [] = c :=
    forall_isEdge (P := fun c => Utf8.charOf (UInt8.ofNat c.toNat) [] = c) (by decide +kernel) edge
  have plain : plainForm c = [c] :=
    forall_isEdge (P := fun c => plainForm c = [c]) (by decide +kernel) edge
  have forbidden : isForbiddenInDomain c = true :=
    forall_isEdge (P := fun c => isForbiddenInDomain c = true) (by decide +kernel) edge
  rw [domainText, Utf8.decode] at read
  cases decoded : Utf8.decodeFrom 0 (Percent.decode cs) with
  | error fault =>
    rw [decoded] at read
    cases read
  | ok text =>
    -- The character is among those that the bytes stand for, and it is forbidden there.
    have inside : c ∈ text := same ▸ mem_of_decodeFrom decoded ascii (mem_decode_of_mem edge member)
    have found : (text.flatMap plainForm).any isForbiddenInDomain = true :=
      List.any_eq_true.mpr ⟨c, List.mem_flatMap.mpr ⟨c, inside, by simp [plain]⟩, forbidden⟩
    simp [decoded, Except.map, found] at read

/-- No host ends in a character that is dropped at the ends of a text. -/
theorem specialHost_concat_ne_ok {c : Char} (edge : isEdge c = true) (cs host : List Char) :
    specialHost (cs ++ [c]) ≠ .ok host := by
  have noBracket : c ≠ ']' := forall_isEdge (P := (· ≠ ']')) (by decide) edge
  intro read
  rw [specialHost] at read
  -- A host in brackets ends in one, and any other host is a domain name.
  split at read
  · simp [bracketedHost, noBracket] at read
  · obtain ⟨domain, name, -⟩ := bind_eq_ok_iff.mp read
    exact domainText_ne_ok edge (by simp) domain name

/-- No port has a character in it that is dropped at the ends of a text. -/
theorem readPort_ne_ok {cs : List Char} {c : Char} (edge : isEdge c = true) (member : c ∈ cs)
    (scheme : String) (port : Option Nat) : readPort scheme cs ≠ .ok port := by
  have noDigit : c.isDigit = false :=
    forall_isEdge (P := fun c => c.isDigit = false) (by decide) edge
  have mixed : cs.all Char.isDigit = false := by
    rw [List.all_eq_false]
    exact ⟨c, member, by simp [noDigit]⟩
  simp [readPort, mixed]

/-- A host ends where the text does, or in front of a colon. -/
theorem drop_hostLength (inBrackets : Bool) (cs : List Char) :
    cs.drop (hostLength inBrackets cs) = [] ∨
      ∃ rest, cs.drop (hostLength inBrackets cs) = ':' :: rest := by
  induction cs generalizing inBrackets with
  | nil => exact .inl rfl
  | cons c rest ih =>
    rw [hostLength]
    split
    -- A colon outside of brackets ends the host.
    next colon =>
      have is : c = ':' := by simp_all
      exact .inr ⟨rest, by rw [is, List.drop_zero]⟩
    next =>
      rw [Nat.add_comm, List.drop_succ_cons]
      exact ih _

/-- No server ends in a character that is dropped at the ends of a text. -/
theorem readServer_concat_ne_ok {c : Char} (edge : isEdge c = true) (scheme : String)
    (cs : List Char) (server : Server) : readServer .special scheme (cs ++ [c]) ≠ .ok server := by
  have noColon : c ≠ ':' := forall_isEdge (P := (· ≠ ':')) (by decide) edge
  intro read
  rw [readServer] at read
  simp only at read
  split at read
  · cases read
  · obtain ⟨host, named, read⟩ := bind_eq_ok_iff.mp read
    obtain ⟨port, numbered, -⟩ := bind_eq_ok_iff.mp read
    rcases drop_hostLength false (cs ++ [c]) with none | ⟨rest, behind⟩
    · -- Without a port the host has the last character.
      rw [List.take_of_length_le (List.drop_eq_nil_iff.mp none)] at named
      exact specialHost_concat_ne_ok edge cs host named
    · -- With a port it is the port that has the last character.
      have suffix : ':' :: rest <:+ cs ++ [c] := behind ▸ List.drop_suffix _ _
      rw [behind] at numbered
      -- The colon is not the last character, which therefore stands behind it.
      rcases List.suffix_concat_iff.mp suffix with nothing | ⟨front, more, -⟩
      · cases nothing
      · have inside : c ∈ rest := by
          have among : c ∈ ':' :: rest := more ▸ List.mem_append_right _ List.mem_cons_self
          exact (List.mem_cons.mp among).resolve_left noColon
        exact readPort_ne_ok edge inside scheme port numbered

/-- What follows a name and a password ends like the whole. -/
theorem splitUser_concat (cs : List Char) {c : Char} (noAt : c ≠ '@') :
    ∃ front, (splitUser (cs ++ [c])).2 = front ++ [c] := by
  rw [splitUser]
  split
  -- With a name the server is what follows the last at sign, and otherwise everything.
  · refine ⟨(cs.reverse.takeWhile (· != '@')).reverse, ?_⟩
    rw [List.reverse_concat, List.takeWhile_cons_of_pos (by simpa using noAt), List.reverse_cons]
  · exact ⟨cs, rfl⟩

/-- An authority that is read ends in a character that is not dropped at the ends of a text. -/
theorem exists_concat_of_readAuthority {scheme : String} {cs : List Char}
    {read : Credentials × Server} (done : readAuthority .special scheme cs = .ok read) :
    ∃ front c, cs = front ++ [c] ∧ isEdge c = false := by
  have ⟨server, found⟩ : ∃ server, readServer .special scheme (splitUser cs).2 = .ok server := by
    obtain ⟨server, found, -⟩ := bind_eq_ok_iff.mp done
    exact ⟨server, found⟩
  rcases List.eq_nil_or_concat cs with rfl | ⟨front, c, rfl⟩
  · -- Without any characters there is no host.
    cases found
  · refine ⟨front, c, List.concat_eq_append, ?_⟩
    by_contra edge
    rw [Bool.not_eq_false] at edge
    have noAt : c ≠ '@' := forall_isEdge (P := (· ≠ '@')) (by decide) edge
    -- The server ends like the authority, and no server ends so.
    obtain ⟨kept, same⟩ := splitUser_concat front noAt
    rw [List.concat_eq_append, same] at found
    exact readServer_concat_ne_ok edge scheme kept server found

end ToolPolicy.Url
