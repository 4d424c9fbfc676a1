import JsonSql.Settings

/-!
# Keys of connections

A key joins host, port number and user by colons, and a host and a user may hold
colons of their own.  Two connections have one key if they agree in all three
parts, or if the longer host reaches over the shorter one and its port number into
its user.  So keys tell connections apart as long as no user, or no host, has a
colon in it.
-/

namespace JsonSql.Connection

theorem colon_not_mem_repr (number : Nat) : ':' ∉ number.repr.toList := by
  rw [Nat.toList_repr]
  intro member
  have digit := Nat.isDigit_of_mem_toDigits (by decide) (by decide) member
  revert digit
  decide

theorem portNumber_of_repr {first second : UInt16}
    (same : first.toNat.repr.toList = second.toNat.repr.toList) : first = second := by
  rw [Nat.toList_repr, Nat.toList_repr] at same
  have values := congrArg (Nat.ofDigitChars 10 · 0) same
  simp only [Nat.ofDigitChars_ten_toDigits] at values
  exact UInt16.toNat_inj.mp values

structure SameAccess (first second : Connection) : Prop where
  host : first.host = second.host
  portNumber : first.portNumber = second.portNumber
  user : first.user = second.user

/-- The host of the second connection holds host and port number of the first one, and
what is left of it begins the user of the first one. -/
def RunsInto (first second : Connection) : Prop :=
  ∃ left : String,
    second.host = first.host ++ ":" ++ first.portNumber.toNat.repr ++ left ∧
      ":" ++ first.user = left ++ ":" ++ second.portNumber.toNat.repr ++ ":" ++ second.user

theorem toList_key (connection : Connection) :
    connection.key.toList = connection.host.toList ++
      ':' :: (connection.portNumber.toNat.repr.toList ++ ':' :: connection.user.toList) := by
  simp [key]

variable {first second : Connection}

theorem SameAccess.key_eq (same : SameAccess first second) : first.key = second.key := by
  rw [key, key, same.host, same.portNumber, same.user]

theorem RunsInto.key_eq (runs : RunsInto first second) : first.key = second.key := by
  obtain ⟨left, host, user⟩ := runs
  calc first.key
      = first.host ++ ":" ++ first.portNumber.toNat.repr ++ (":" ++ first.user) := by
        simp only [key, String.append_assoc]
    _ = first.host ++ ":" ++ first.portNumber.toNat.repr ++
          (left ++ ":" ++ second.portNumber.toNat.repr ++ ":" ++ second.user) := by
        rw [user]
    _ = second.key := by
        rw [key, host]
        simp only [String.append_assoc]

theorem RunsInto.host_ne (runs : RunsInto first second) : first.host ≠ second.host := by
  obtain ⟨left, host, -⟩ := runs
  intro same
  have lengths := congrArg (fun host => host.toList.length) (same.trans host)
  simp at lengths

theorem RunsInto.colon_mem (runs : RunsInto first second) :
    ':' ∈ first.user.toList ∧ ':' ∈ second.host.toList := by
  obtain ⟨left, host, user⟩ := runs
  have letters : ':' :: first.user.toList = left.toList ++
      ':' :: (second.portNumber.toNat.repr.toList ++ ':' :: second.user.toList) := by
    simpa using congrArg String.toList user
  refine ⟨?_, by simp [host]⟩
  rcases List.cons_eq_append_iff.mp letters with ⟨-, tail⟩ | ⟨more, -, tail⟩
  · rw [← (List.cons.inj tail).2]
    exact List.mem_append_right _ List.mem_cons_self
  · rw [tail]
    exact List.mem_append_right _ List.mem_cons_self

theorem exists_left_of_append_eq {piece before rest others : List Char} {separator : Char}
    (apart : separator ∉ piece)
    (same : piece ++ separator :: rest = before ++ separator :: others) :
    ∃ left, before = piece ++ left ∧ separator :: rest = left ++ separator :: others := by
  rcases List.append_eq_append_iff.mp same with ⟨left, longer, tail⟩ | ⟨left, shorter, tail⟩
  · exact ⟨left, longer, tail⟩
  · cases left with
    | nil => exact ⟨[], by simpa using shorter.symm, by simpa using tail.symm⟩
    | cons char left =>
        obtain ⟨rfl, -⟩ := List.cons.inj tail
        exact absurd (by simp [shorter]) apart

theorem sameAccess_or_runsInto {more : List Char}
    (longer : second.host.toList = first.host.toList ++ more)
    (tail : ':' :: (first.portNumber.toNat.repr.toList ++ ':' :: first.user.toList) =
      more ++ ':' :: (second.portNumber.toNat.repr.toList ++ ':' :: second.user.toList)) :
    SameAccess first second ∨ RunsInto first second := by
  cases more with
  | nil =>
      have rest : first.portNumber.toNat.repr.toList ++ ':' :: first.user.toList =
          second.portNumber.toNat.repr.toList ++ ':' :: second.user.toList := by
        simpa using tail
      obtain ⟨left, longerNumber, users⟩ :=
        exists_left_of_append_eq (colon_not_mem_repr _) rest
      cases left with
      | nil =>
          refine .inl ⟨?_, portNumber_of_repr (by simpa using longerNumber.symm), ?_⟩
          · exact String.toList_inj.mp (by simpa using longer.symm)
          · exact String.toList_inj.mp (by simpa using users)
      | cons char left =>
          obtain ⟨rfl, -⟩ := List.cons.inj users
          have inNumber : ':' ∈ second.portNumber.toNat.repr.toList := by
            simp [longerNumber]
          exact absurd inNumber (colon_not_mem_repr _)
  | cons char more =>
      obtain ⟨rfl, rest⟩ := List.cons.inj tail
      obtain ⟨left, reached, users⟩ := exists_left_of_append_eq (colon_not_mem_repr _) rest
      refine .inr ⟨String.ofList left, ?_, ?_⟩
      · rw [← String.toList_inj]
        simp [longer, reached]
      · rw [← String.toList_inj]
        simpa using users

theorem key_eq_iff (first second : Connection) :
    first.key = second.key ↔
      SameAccess first second ∨ RunsInto first second ∨ RunsInto second first := by
  constructor
  · intro same
    have letters := congrArg String.toList same
    rw [toList_key, toList_key] at letters
    rcases List.append_eq_append_iff.mp letters with
      ⟨more, longer, tail⟩ | ⟨more, longer, tail⟩
    · rcases sameAccess_or_runsInto longer tail with agree | runs
      · exact .inl agree
      · exact .inr (.inl runs)
    · rcases sameAccess_or_runsInto longer tail with agree | runs
      · exact .inl ⟨agree.host.symm, agree.portNumber.symm, agree.user.symm⟩
      · exact .inr (.inr runs)
  · rintro (agree | runs | runs)
    · exact agree.key_eq
    · exact runs.key_eq
    · exact runs.key_eq.symm

/-- Of two connections with one key each leads to the same place for the same user, unless
one of them runs into the other.  If one does, they have one key although the hosts
differ, and there are a user and a host with a colon. -/
theorem key_separates_iff (first second : Connection) :
    ((first.key = second.key → SameAccess first second) ↔
      ¬ RunsInto first second ∧ ¬ RunsInto second first) ∧
    (RunsInto first second → first.key = second.key ∧ first.host ≠ second.host ∧
      ':' ∈ first.user.toList ∧ ':' ∈ second.host.toList) := by
  constructor
  · constructor
    · intro separates
      refine ⟨fun runs => ?_, fun runs => ?_⟩
      · exact runs.host_ne (separates runs.key_eq).host
      · exact runs.host_ne (separates runs.key_eq.symm).host.symm
    · rintro ⟨noRun, noRunBack⟩ same
      rcases (key_eq_iff first second).mp same with agree | runs | runs
      · exact agree
      · exact absurd runs noRun
      · exact absurd runs noRunBack
  · intro runs
    exact ⟨runs.key_eq, runs.host_ne, runs.colon_mem⟩

def loopback : Connection := { host := "::1", portNumber := 80, user := "5:root" }

def longerAddress : Connection := { host := "::1:80", portNumber := 5, user := "root" }

theorem loopback_and_longerAddress_share_key :
    loopback.key = "::1:80:5:root" ∧ longerAddress.key = "::1:80:5:root" ∧
      loopback.host ≠ longerAddress.host ∧ loopback.portNumber ≠ longerAddress.portNumber ∧
      loopback.user ≠ longerAddress.user := by
  decide

theorem loopback_runsInto_longerAddress :
    RunsInto loopback longerAddress ∧ loopback.key = longerAddress.key ∧
      ¬ (loopback.key = longerAddress.key → SameAccess loopback longerAddress) := by
  have runs : RunsInto loopback longerAddress := ⟨"", rfl, rfl⟩
  have separates := key_separates_iff loopback longerAddress
  refine ⟨runs, (separates.2 runs).1, fun apart => ?_⟩
  exact (separates.1.mp apart).1 runs

end JsonSql.Connection
