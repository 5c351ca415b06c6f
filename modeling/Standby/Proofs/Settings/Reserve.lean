import Standby.Proofs.Settings.Check

/-!
# What a wish for reserved threads comes to

A wish is automatic or fixed. An automatic one is cut to the processors and to a tenth of the
backing threads, and last of all to what leaves one backing thread for other work, so it is never
refused. A fixed one is taken as it is, so it is refused if it takes every backing thread.
-/

namespace Standby.Settings

open Text

namespace ReservedThreads

section Automatic

variable {processors backing : Nat}

/-- An automatic count leaves a backing thread for other work. -/
theorem resolve_automatic_lt (backed : 0 < backing) :
    automatic.resolve processors (some backing) < backing := by
  simp only [resolve]
  omega

/-- It is zero only if there is no more than that thread. -/
theorem resolve_automatic_eq_zero_iff (backed : 0 < backing) :
    automatic.resolve processors (some backing) = 0 ↔ backing = 1 := by
  simp only [resolve]
  omega

/-- It exceeds neither the processors nor, unless it is one, a tenth of the backing threads. -/
theorem resolve_automatic_le (present : 0 < processors) :
    automatic.resolve processors (some backing) ≤ min processors (max 1 (backing / 10)) := by
  simp only [resolve]
  omega

/-- More processors or backing threads never lower it. -/
theorem resolve_automatic_mono {more larger : Nat} (processorsLe : processors ≤ more)
    (backingLe : backing ≤ larger) :
    automatic.resolve processors (some backing) ≤ automatic.resolve more (some larger) := by
  have tenth : backing / 10 ≤ larger / 10 := Nat.div_le_div_right backingLe
  simp only [resolve]
  omega

end Automatic

/-- How an automatic count fits itself to a machine with so many processors and to so many backing
threads. -/
structure Fits (processors backing : Nat) : Prop where
  /-- It is never refused for taking every backing thread. -/
  accepted : Reserved.withinBacking (automatic.resolve processors (some backing)) backing =
    .ok (automatic.resolve processors (some backing))
  /-- A single backing thread is left to other work. -/
  vacant : automatic.resolve processors (some backing) = 0 ↔ backing = 1
  /-- Otherwise a thread is reserved, and no more than the processors or, unless it is the only
  one, a tenth of the backing threads. -/
  bounded : backing ≠ 1 → 1 ≤ automatic.resolve processors (some backing) ∧
    automatic.resolve processors (some backing) ≤ min processors (max 1 (backing / 10))
  /-- More processors or backing threads never lower it. -/
  monotone : ∀ more larger, processors ≤ more → backing ≤ larger →
    automatic.resolve processors (some backing) ≤ automatic.resolve more (some larger)

/-- With processors and threads to share, the automatic number fits. -/
theorem fits_of_pos {processors backing : Nat} (present : 0 < processors) (backed : 0 < backing) :
    Fits processors backing where
  accepted := if_neg fun full => Nat.not_le.mpr (resolve_automatic_lt backed) full.2
  vacant := resolve_automatic_eq_zero_iff backed
  bounded several := ⟨Nat.pos_of_ne_zero (mt (resolve_automatic_eq_zero_iff backed).mp several),
    resolve_automatic_le present⟩
  monotone _ _ := resolve_automatic_mono

/-- Nothing, the word for an automatic count and the integers of 64 bits spell a wish. -/
theorem exists_spelled_iff (text : List Char) : (∃ wish, Spelled text wish) ↔
    text = [] ∨ text = ['a', 'u', 't', 'o'] ∨
      ∃ count, SignedNumeral text count ∧ -(signedBound : Int) ≤ count ∧ count < signedBound := by
  constructor
  · rintro ⟨wish, spelled⟩
    cases spelled with
    | empty => exact .inl rfl
    | auto => exact .inr (.inl rfl)
    | negative numeral least below => exact .inr (.inr ⟨_, numeral, by omega, by omega⟩)
    | fixed numeral most => exact .inr (.inr ⟨_, numeral, by omega, by omega⟩)
  · rintro (rfl | rfl | ⟨count, numeral, least, most⟩)
    · exact ⟨_, .empty⟩
    · exact ⟨_, .auto⟩
    · rcases Int.lt_or_le count 0 with below | above
      · exact ⟨_, .negative numeral (by omega) below⟩
      · obtain ⟨count, rfl⟩ := Int.eq_ofNat_of_zero_le above
        exact ⟨_, .fixed numeral (by omega)⟩

end ReservedThreads

namespace Reserved

/-- The text that the wish is read from. A variable that is not set asks for an automatic
count. -/
def said (environment : Environment) : String := environment.textOr threadsVariable "auto"

/-- A wish is granted: only the idle timeout may still be refused, and the reserve has the given
capacity. -/
def Granted (environment : Environment) (processors backing : Nat) (wish : ReservedThreads)
    (capacity : Nat) : Prop :=
  read environment processors backing =
    (fun idleTimeout => ⟨wish, idleTimeout, capacity⟩) <$> readIdleTimeout environment

/-- A wish is refused because it would take every backing thread. -/
def Crowded (environment : Environment) (processors backing capacity : Nat) : Prop :=
  read environment processors backing = .error (.outOfBounds threadsVariable
    (toString capacity ++ " reserved threads leave none of the " ++ toString backing ++
      " backing threads for fallback work"))

/-- What becomes of the text of a wish on a machine with so many processors and over so many
backing threads. -/
structure Resolved (raw : String) (processors backing : Nat) : Prop where
  /-- Without the white space around it and in lowercase, a text that can be read is empty, the
  word for an automatic count or an integer of 64 bits. -/
  readable : (∃ wish, ReservedThreads.parse raw = .ok wish) ↔
    lowercase (trim raw.toList) = [] ∨ lowercase (trim raw.toList) = ['a', 'u', 't', 'o'] ∨
      ∃ count, SignedNumeral (lowercase (trim raw.toList)) count ∧
        -(signedBound : Int) ≤ count ∧ count < signedBound
  /-- It asks for just the count of an integer that is not negative, and for an automatic count
  otherwise. -/
  meant : ∀ wish, ReservedThreads.parse raw = .ok wish ↔
    ReservedThreads.Spelled (lowercase (trim raw.toList)) wish
  /-- A text that cannot be read is a fault. -/
  unreadable : (¬ ∃ wish, ReservedThreads.parse raw = .ok wish) →
    ∀ environment, said environment = raw → ∃ detail,
      read environment processors backing = .error (.unreadable threadsVariable raw detail)
  /-- No reserve takes every backing thread. -/
  sound : ∀ environment, said environment = raw →
    ∀ reserved, read environment processors backing = .ok reserved →
      reserved.capacity = 0 ∨ reserved.capacity < backing
  /-- An automatic count is always granted, and it fits. -/
  automatic : ReservedThreads.parse raw = .ok .automatic →
    ∀ environment, said environment = raw →
      Granted environment processors backing .automatic
        (ReservedThreads.automatic.resolve processors (some backing))
  fits : ReservedThreads.Fits processors backing
  /-- A fixed count is granted as it is if it is zero or leaves a backing thread, and refused if
  not. -/
  fixed : ∀ count, ReservedThreads.parse raw = .ok (.fixed count) →
    ∀ environment, said environment = raw →
      (Granted environment processors backing (.fixed count) count ↔
        count = 0 ∨ count < backing) ∧
      (Crowded environment processors backing count ↔ ¬ (count = 0 ∨ count < backing))

section Read

variable {environment : Environment} {processors backing : Nat}

/-- A text that cannot be read is a fault. -/
theorem read_of_unreadable
    (unread : ¬ ∃ wish, ReservedThreads.parse (said environment) = .ok wish) :
    ∃ detail, read environment processors backing =
      .error (.unreadable threadsVariable (said environment) detail) := by
  cases parsed : ReservedThreads.parse (said environment) with
  | ok wish => exact absurd ⟨wish, parsed⟩ unread
  | error fault =>
    refine ⟨fault.message, ?_⟩
    rw [said] at parsed
    simp only [read, readWish, parsed]
    rfl

variable {wish : ReservedThreads} (parsed : ReservedThreads.parse (said environment) = .ok wish)
include parsed

/-- A wish that was read is checked against the backing threads before the idle timeout is
read. -/
theorem read_of_parse : read environment processors backing =
    withinBacking (wish.resolve processors (some backing)) backing >>= fun capacity =>
      (fun idleTimeout => ⟨wish, idleTimeout, capacity⟩) <$> readIdleTimeout environment := by
  have wished : readWish environment = .ok wish := by
    rw [said] at parsed
    simp only [readWish, parsed]
  rw [read, wished]
  rfl

/-- A wish with room in the pool is granted as it resolves. -/
theorem granted_of_room (room : wish.resolve processors (some backing) = 0 ∨
    wish.resolve processors (some backing) < backing) :
    Granted environment processors backing wish (wish.resolve processors (some backing)) := by
  rw [Granted, read_of_parse parsed, withinBacking, if_neg (by omega)]
  rfl

/-- A wish without room in the pool crowds it. -/
theorem crowded_of_full (full : ¬ (wish.resolve processors (some backing) = 0 ∨
    wish.resolve processors (some backing) < backing)) :
    Crowded environment processors backing (wish.resolve processors (some backing)) := by
  rw [Crowded, read_of_parse parsed, withinBacking, if_pos (by omega)]
  rfl

end Read

section Granted

variable {environment : Environment} {processors backing capacity : Nat} {wish : ReservedThreads}
  (granted : Granted environment processors backing wish capacity)
include granted

/-- The reserve has the capacity that was granted. -/
theorem Granted.capacity_eq {reserved : Reserved}
    (accepted : read environment processors backing = .ok reserved) :
    reserved.capacity = capacity := by
  rw [granted] at accepted
  cases idle : readIdleTimeout environment with
  | ok idleTimeout =>
    rw [idle] at accepted
    cases accepted
    rfl
  | error fault =>
    rw [idle] at accepted
    cases accepted

/-- Once a wish is granted, only the idle timeout can take the blame. -/
theorem Granted.blames {fault : Fault}
    (failed : read environment processors backing = .error fault) :
    fault.blames = idleVariable := by
  rw [granted, readIdleTimeout] at failed
  cases idle : Duration.parse ((environment.filled? idleVariable).getD "60s") with
  | ok idleTimeout =>
    simp only [idle] at failed
    cases failed
  | error fault =>
    simp only [idle] at failed
    cases failed
    rfl

/-- What is granted does not crowd the pool. -/
theorem Granted.not_crowded : ¬ Crowded environment processors backing capacity := by
  intro crowded
  have blames : threadsVariable = idleVariable := granted.blames crowded
  revert blames
  decide

end Granted

/-- Every text of a wish is resolved, on every machine and over every pool of backing threads. -/
theorem wish_resolved (raw : String) {processors backing : Nat} (present : 0 < processors)
    (backed : 0 < backing) : Resolved raw processors backing := by
  constructor
  case readable =>
    simp only [ReservedThreads.parse_eq_ok_iff]
    exact ReservedThreads.exists_spelled_iff _
  case meant => exact ReservedThreads.parse_eq_ok_iff raw
  case unreadable =>
    rintro unread environment rfl
    exact read_of_unreadable unread
  case sound =>
    rintro environment rfl reserved accepted
    by_cases readable : ∃ wish, ReservedThreads.parse (said environment) = .ok wish
    · obtain ⟨wish, parsed⟩ := readable
      by_cases room : wish.resolve processors (some backing) = 0 ∨
          wish.resolve processors (some backing) < backing
      · rwa [(granted_of_room parsed room).capacity_eq accepted]
      · rw [crowded_of_full parsed room] at accepted
        cases accepted
    · obtain ⟨detail, failed⟩ := read_of_unreadable readable
      rw [failed] at accepted
      cases accepted
  case automatic =>
    rintro parsed environment rfl
    exact granted_of_room parsed (.inr (ReservedThreads.resolve_automatic_lt backed))
  case fits => exact ReservedThreads.fits_of_pos present backed
  case fixed =>
    rintro count parsed environment rfl
    have granted : count = 0 ∨ count < backing →
      Granted environment processors backing (.fixed count) count := granted_of_room parsed
    have crowded : ¬ (count = 0 ∨ count < backing) →
      Crowded environment processors backing count := crowded_of_full parsed
    refine ⟨⟨fun grant => ?_, granted⟩, ⟨fun crowd room => ?_, crowded⟩⟩
    · by_contra full
      exact grant.not_crowded (crowded full)
    · exact (granted room).not_crowded crowd

/-- All but one of eleven threads are wished for, in the notation with a sign. -/
def nearlyAll : Environment := ⟨[("RESERVED_THREADS", " +10 ".toUTF8)]⟩

/-- Of eleven backing threads these can be reserved, and of ten they are all. -/
theorem nearlyAll_resolved : 0 < 8 ∧ 0 < 11 ∧ Resolved " +10 " 8 11 ∧
    Granted nearlyAll 8 11 (.fixed 10) 10 ∧ Crowded nearlyAll 8 10 10 := by
  have said : said nearlyAll = " +10 " := by decide +kernel
  have parsed : ReservedThreads.parse " +10 " = .ok (.fixed 10) := by decide +kernel
  have resolved {backing : Nat} (backed : 0 < backing) : Resolved " +10 " 8 backing :=
    wish_resolved " +10 " (by decide) backed
  refine ⟨by decide, by decide, resolved (by decide), ?_, ?_⟩
  · exact ((resolved (by decide)).fixed 10 parsed nearlyAll said).1.mpr (by decide)
  · exact ((resolved (by decide)).fixed 10 parsed nearlyAll said).2.mpr (by decide)

end Reserved

end Standby.Settings
