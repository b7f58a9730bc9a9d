import CogniDQ.Database.ReadCommitted
import CogniDQ.Protocol.Runs
import CogniDQ.Sources.CredentialRotation
import CogniDQ.Sources.UpdatedSources

/-!
# Clean rotation

A source refers to its one credential that is not superseded in every committed state. The outcome of
its last test comes from that credential, as long as no rotation overtakes a test.
-/

set_option autoImplicit false

namespace CogniDQ.Sources

open CogniDQ.Database CogniDQ.Protocol CogniDQ.Python

variable {Tx Uuid : Type} [DecidableEq Uuid]

/-- The reference names a credential of the source that is not superseded; all its others are. -/
structure CleanSource (credentials : Rows Uuid (Credential Uuid)) (dataSourceId : Uuid)
    (reference : Option Uuid) : Prop where
  current : ∀ credentialId, reference = some credentialId → ∃ credential,
    credentials.lookup credentialId = some credential ∧ credential.dataSourceId = dataSourceId ∧
      credential.supersededAt = none
  others : ∀ credentialId credential, credentials.lookup credentialId = some credential →
    credential.dataSourceId = dataSourceId → reference ≠ some credentialId →
      credential.supersededAt.isSome = true

namespace RotationWorld

/-- The committed state: credentials rotated cleanly, and test outcomes of the current ones. -/
structure Clean (world : RotationWorld Tx Uuid) : Prop where
  credentials : ∀ dataSourceId row, world.sources.committed.lookup dataSourceId = some row →
    CleanSource world.credentials.committed dataSourceId row.credentialReference
  tested : ∀ dataSourceId row, world.sources.committed.lookup dataSourceId = some row →
    row.lastTestStatus ≠ .untested → world.testedWith dataSourceId = row.credentialReference

/-! ### What a transaction has done so far -/

/-- No write yet. -/
def Quiet (world : RotationWorld Tx Uuid) (tx : Tx) : Prop :=
  world.sources.pending tx = ∅ ∧ world.credentials.pending tx = ∅

structure Fresh (world : RotationWorld Tx Uuid) (tx : Tx) (dataSourceId : Uuid) : Prop where
  held : world.sources.holder dataSourceId = some tx
  absent : world.sources.committed.lookup dataSourceId = none

structure Locked (world : RotationWorld Tx Uuid) (tx : Tx) (dataSourceId : Uuid)
    (current : DataSource Uuid) : Prop where
  held : world.sources.holder dataSourceId = some tx
  committed : world.sources.committed.lookup dataSourceId = some current

/-- The source has been written, for its owner. -/
def Stores (world : RotationWorld Tx Uuid) (tx : Tx) (dataSourceId : Uuid) (owner : Option Uuid) :
    Prop :=
  ∃ row, world.sources.Wrote tx dataSourceId row ∧ row.workspaceId = owner

/-- The source has been written, with owner, reference and test outcome as they were. -/
def Keeps (world : RotationWorld Tx Uuid) (tx : Tx) (dataSourceId : Uuid)
    (current : DataSource Uuid) : Prop :=
  ∃ row, world.sources.Wrote tx dataSourceId row ∧ row.workspaceId = current.workspaceId ∧
    row.credentialReference = current.credentialReference ∧
    row.lastTestStatus = current.lastTestStatus

def Refers (world : RotationWorld Tx Uuid) (tx : Tx) (dataSourceId credentialId : Uuid) : Prop :=
  ∃ row, world.sources.Wrote tx dataSourceId row ∧ row.credentialReference = some credentialId ∧
    row.lastTestStatus = .untested

def Credits (world : RotationWorld Tx Uuid) (tx : Tx) (dataSourceId credentialId : Uuid) : Prop :=
  world.credentials.committed.lookup credentialId = none ∧
    ∃ credential, world.credentials.Wrote tx credentialId credential ∧
      credential.dataSourceId = dataSourceId ∧ credential.supersededAt = none

/-- A new credential of the source, and the old one superseded. -/
structure Replaces (world : RotationWorld Tx Uuid) (tx : Tx) (dataSourceId : Uuid)
    (reference : Option Uuid) (credentialId : Uuid) : Prop where
  absent : world.credentials.committed.lookup credentialId = none
  credited : ∃ credential,
    (world.credentials.pending tx).lookup credentialId = some (some credential) ∧
      credential.dataSourceId = dataSourceId ∧ credential.supersededAt = none
  superseded : ∀ old, reference = some old → ∃ credential,
    (world.credentials.pending tx).lookup old = some (some credential) ∧
      credential.dataSourceId = dataSourceId ∧ credential.supersededAt.isSome = true
  others : ∀ other, other ≠ credentialId → reference ≠ some other →
    (world.credentials.pending tx).lookup other = none

/-- What a transaction has locked and written when it comes to a statement. -/
def Follows (world : RotationWorld Tx Uuid) (tx : Tx) : RotationPhase Uuid → Prop
  | .idle | .inserting .. | .decrypting .. | .connecting .. | .tested .. => world.Quiet tx
  | .crediting request _ dataSourceId =>
    world.Fresh tx dataSourceId ∧ world.Stores tx dataSourceId (some request.workspaceId) ∧
      world.credentials.pending tx = ∅
  | .referencing request dataSourceId credentialId =>
    world.Fresh tx dataSourceId ∧ world.Stores tx dataSourceId (some request.workspaceId) ∧
      world.Credits tx dataSourceId credentialId
  | .created dataSourceId credentialId =>
    world.Fresh tx dataSourceId ∧ world.Refers tx dataSourceId credentialId ∧
      world.Credits tx dataSourceId credentialId
  | .updating request dataSourceId _ current =>
    world.Locked tx dataSourceId current ∧
      (world.catalog tx).visible request.workspaceId dataSourceId current = true ∧ world.Quiet tx
  | .described request dataSourceId _ current =>
    world.Locked tx dataSourceId current ∧
      (world.catalog tx).visible request.workspaceId dataSourceId current = true ∧
      world.Keeps tx dataSourceId current ∧ world.credentials.pending tx = ∅
  | .credited request dataSourceId current credentialId =>
    world.Locked tx dataSourceId current ∧
      (world.catalog tx).visible request.workspaceId dataSourceId current = true ∧
      world.Keeps tx dataSourceId current ∧ world.Credits tx dataSourceId credentialId
  | .referred dataSourceId current credentialId =>
    world.Locked tx dataSourceId current ∧ world.Refers tx dataSourceId credentialId ∧
      world.Credits tx dataSourceId credentialId
  | .rotated dataSourceId current credentialId =>
    world.Locked tx dataSourceId current ∧ world.Refers tx dataSourceId credentialId ∧
      world.Replaces tx dataSourceId current.credentialReference credentialId
  | .recorded dataSourceId current =>
    ∃ before, world.Locked tx dataSourceId before ∧
      before.credentialReference = current.credentialReference ∧
      (∃ row, world.sources.Wrote tx dataSourceId row ∧
        row.credentialReference = before.credentialReference) ∧
      world.credentials.pending tx = ∅

/-! ### The steps of the others -/

section Frames

variable {world next : RotationWorld Tx Uuid} {tx : Tx} {dataSourceId credentialId : Uuid}
  {current : DataSource Uuid}

private theorem Quiet.frame (quiet : world.Quiet tx) (sources : world.sources.Frame next.sources tx)
    (credentials : world.credentials.Frame next.credentials tx) : next.Quiet tx :=
  ⟨sources.pending.trans quiet.1, credentials.pending.trans quiet.2⟩

private theorem Fresh.frame (fresh : world.Fresh tx dataSourceId)
    (sources : world.sources.Frame next.sources tx) : next.Fresh tx dataSourceId :=
  ⟨sources.held _ fresh.held, (sources.committed _ fresh.held).trans fresh.absent⟩

private theorem Locked.frame (locked : world.Locked tx dataSourceId current)
    (sources : world.sources.Frame next.sources tx) : next.Locked tx dataSourceId current :=
  ⟨sources.held _ locked.held, (sources.committed _ locked.held).trans locked.committed⟩

private theorem Stores.frame {owner : Option Uuid} (stores : world.Stores tx dataSourceId owner)
    (sources : world.sources.Frame next.sources tx) : next.Stores tx dataSourceId owner := by
  obtain ⟨row, wrote, owned⟩ := stores
  exact ⟨row, wrote.frame sources, owned⟩

private theorem Keeps.frame (keeps : world.Keeps tx dataSourceId current)
    (sources : world.sources.Frame next.sources tx) : next.Keeps tx dataSourceId current := by
  obtain ⟨row, wrote, same⟩ := keeps
  exact ⟨row, wrote.frame sources, same⟩

private theorem Refers.frame (refers : world.Refers tx dataSourceId credentialId)
    (sources : world.sources.Frame next.sources tx) : next.Refers tx dataSourceId credentialId := by
  obtain ⟨row, wrote, refersTo⟩ := refers
  exact ⟨row, wrote.frame sources, refersTo⟩

private theorem Credits.frame (credits : world.Credits tx dataSourceId credentialId)
    (owned : world.credentials.Owned) (credentials : world.credentials.Frame next.credentials tx) :
    next.Credits tx dataSourceId credentialId := by
  obtain ⟨absent, credential, wrote, own⟩ := credits
  exact ⟨(credentials.committed _ (wrote.held owned)).trans absent, credential,
    wrote.frame credentials, own⟩

private theorem Replaces.frame {reference : Option Uuid}
    (replaces : world.Replaces tx dataSourceId reference credentialId)
    (owned : world.credentials.Owned) (credentials : world.credentials.Frame next.credentials tx) :
    next.Replaces tx dataSourceId reference credentialId := by
  obtain ⟨credential, written, _⟩ := replaces.credited
  have held : world.credentials.holder credentialId = some tx :=
    owned tx credentialId (by rw [written]; rfl)
  constructor
  · exact (credentials.committed _ held).trans replaces.absent
  · rw [credentials.pending]
    exact replaces.credited
  · rw [credentials.pending]
    exact replaces.superseded
  · rw [credentials.pending]
    exact replaces.others

theorem Follows.frame {phase : RotationPhase Uuid} (follows : world.Follows tx phase)
    (owned : world.credentials.Owned) (assignments : next.assignments = world.assignments)
    (sources : world.sources.Frame next.sources tx)
    (credentials : world.credentials.Frame next.credentials tx) : next.Follows tx phase := by
  have sees : ∀ workspaceId dataSourceId row,
      (world.catalog tx).visible workspaceId dataSourceId row = true →
        (next.catalog tx).visible workspaceId dataSourceId row = true := by
    intro workspaceId dataSourceId row visible
    unfold Catalog.visible at visible ⊢
    rwa [show (next.catalog tx).assignments = (world.catalog tx).assignments from assignments]
  cases phase with
  | idle => exact Quiet.frame follows sources credentials
  | inserting => exact Quiet.frame follows sources credentials
  | decrypting => exact Quiet.frame follows sources credentials
  | connecting => exact Quiet.frame follows sources credentials
  | tested => exact Quiet.frame follows sources credentials
  | crediting =>
    obtain ⟨fresh, stores, quiet⟩ := follows
    exact ⟨fresh.frame sources, stores.frame sources, credentials.pending.trans quiet⟩
  | referencing =>
    obtain ⟨fresh, stores, credits⟩ := follows
    exact ⟨fresh.frame sources, stores.frame sources, credits.frame owned credentials⟩
  | created =>
    obtain ⟨fresh, refers, credits⟩ := follows
    exact ⟨fresh.frame sources, refers.frame sources, credits.frame owned credentials⟩
  | updating =>
    obtain ⟨locked, visible, quiet⟩ := follows
    exact ⟨locked.frame sources, sees _ _ _ visible,
      quiet.frame sources credentials⟩
  | described =>
    obtain ⟨locked, visible, keeps, quiet⟩ := follows
    exact ⟨locked.frame sources, sees _ _ _ visible, keeps.frame sources,
      credentials.pending.trans quiet⟩
  | credited =>
    obtain ⟨locked, visible, keeps, credits⟩ := follows
    exact ⟨locked.frame sources, sees _ _ _ visible, keeps.frame sources,
      credits.frame owned credentials⟩
  | referred =>
    obtain ⟨locked, refers, credits⟩ := follows
    exact ⟨locked.frame sources, refers.frame sources, credits.frame owned credentials⟩
  | rotated =>
    obtain ⟨locked, refers, replaces⟩ := follows
    exact ⟨locked.frame sources, refers.frame sources, replaces.frame owned credentials⟩
  | recorded =>
    obtain ⟨before, locked, same, ⟨row, wrote, kept⟩, quiet⟩ := follows
    exact ⟨before, locked.frame sources, same, ⟨row, wrote.frame sources, kept⟩,
      credentials.pending.trans quiet⟩

end Frames

/-! ### The invariant -/

/-- Every transaction is where its phase says, over a clean committed state. -/
structure Sound (world : RotationWorld Tx Uuid) : Prop where
  sourcesOwned : world.sources.Owned
  credentialsOwned : world.credentials.Owned
  clean : world.Clean
  /-- Credentials are of sources that exist. -/
  backed : ∀ credentialId credential,
    world.credentials.committed.lookup credentialId = some credential →
      (world.sources.committed.lookup credential.dataSourceId).isSome = true
  follows : ∀ tx, world.Follows tx (world.phase tx)

/-! ### What the commits make of the credentials -/

section Commits

variable {world : RotationWorld Tx Uuid} {tx : Tx} {dataSourceId credentialId : Uuid}

theorem view_of_quiet_iff (quiet : world.credentials.pending tx = ∅) (credentialId : Uuid)
    (credential : Credential Uuid) :
    (world.credentials.view tx).lookup credentialId = some credential ↔
      world.credentials.committed.lookup credentialId = some credential := by
  rw [Table.view_of_quiet quiet]

theorem Credits.foreign (credits : world.Credits tx dataSourceId credentialId) (other : Uuid)
    (credential : Credential Uuid) (apart : credential.dataSourceId ≠ dataSourceId) :
    (world.credentials.view tx).lookup other = some credential ↔
      world.credentials.committed.lookup other = some credential := by
  obtain ⟨absent, written, wrote, own, _⟩ := credits
  by_cases same : other = credentialId
  · subst same
    rw [wrote.view_self, absent]
    constructor
    · rintro ⟨⟩
      exact absurd own apart
    · exact nofun
  · rw [wrote.view_other same]

private theorem Credits.clean (credits : world.Credits tx dataSourceId credentialId)
    (fresh : world.Fresh tx dataSourceId) (sound : world.Sound) :
    CleanSource (world.credentials.view tx) dataSourceId (some credentialId) := by
  obtain ⟨_, written, wrote, own, current⟩ := credits
  constructor
  · rintro _ ⟨⟩
    exact ⟨written, wrote.view_self, own, current⟩
  · intro other credential held belongs apart
    have different : other ≠ credentialId := fun same => apart (congrArg some same.symm)
    rw [wrote.view_other different] at held
    have backed := sound.backed other credential held
    rw [belongs, fresh.absent] at backed
    cases backed

private theorem Replaces.foreign {reference : Option Uuid}
    (replaces : world.Replaces tx dataSourceId reference credentialId)
    (clean : CleanSource world.credentials.committed dataSourceId reference) (other : Uuid)
    (credential : Credential Uuid) (apart : credential.dataSourceId ≠ dataSourceId) :
    (world.credentials.view tx).lookup other = some credential ↔
      world.credentials.committed.lookup other = some credential := by
  by_cases same : other = credentialId
  · subst same
    obtain ⟨written, pending, own, _⟩ := replaces.credited
    rw [Table.view_of_written pending, replaces.absent]
    constructor
    · rintro ⟨⟩
      exact absurd own apart
    · exact nofun
  · by_cases old : reference = some other
    · obtain ⟨written, pending, own, _⟩ := replaces.superseded other old
      obtain ⟨before, held, belongs, _⟩ := clean.current other old
      rw [Table.view_of_written pending, held]
      constructor
      · rintro ⟨⟩
        exact absurd own apart
      · rintro ⟨⟩
        exact absurd belongs apart
    · rw [Table.view_of_unwritten (replaces.others other same old)]

private theorem Replaces.clean {reference : Option Uuid}
    (replaces : world.Replaces tx dataSourceId reference credentialId)
    (clean : CleanSource world.credentials.committed dataSourceId reference) :
    CleanSource (world.credentials.view tx) dataSourceId (some credentialId) := by
  constructor
  · rintro _ ⟨⟩
    obtain ⟨written, pending, own, current⟩ := replaces.credited
    exact ⟨written, Table.view_of_written pending, own, current⟩
  · intro other credential held belongs apart
    have different : other ≠ credentialId := fun same => apart (congrArg some same.symm)
    by_cases old : reference = some other
    · obtain ⟨written, pending, _, superseded⟩ := replaces.superseded other old
      obtain rfl := Option.some.inj ((Table.view_of_written pending).symm.trans held)
      exact superseded
    · rw [Table.view_of_unwritten (replaces.others other different old)] at held
      exact clean.others other credential held belongs old

end Commits

/-! ### Steps -/

variable [DecidableEq Tx]

structure Advances (world next : RotationWorld Tx Uuid) (tx : Tx) (phase : RotationPhase Uuid) :
    Prop where
  sources : next.sources.committed = world.sources.committed
  credentials : next.credentials.committed = world.credentials.committed
  testedWith : next.testedWith = world.testedWith
  assignments : next.assignments = world.assignments
  sourcesOwned : next.sources.Owned
  credentialsOwned : next.credentials.Owned
  frames : ∀ other, other ≠ tx → world.sources.Frame next.sources other ∧
    world.credentials.Frame next.credentials other
  phase : next.phase = Function.update world.phase tx phase

section Steps

variable {world next : RotationWorld Tx Uuid} {tx : Tx} {phase : RotationPhase Uuid}
  {dataSourceId credentialId : Uuid}

theorem Sound.advance (sound : world.Sound) (advances : world.Advances next tx phase)
    (follows : next.Follows tx phase) : next.Sound := by
  refine ⟨advances.sourcesOwned, advances.credentialsOwned, ⟨?_, ?_⟩, ?_, fun other => ?_⟩
  · rw [advances.sources, advances.credentials]
    exact sound.clean.credentials
  · rw [advances.sources, advances.testedWith]
    exact sound.clean.tested
  · rw [advances.sources, advances.credentials]
    exact sound.backed
  · rw [advances.phase]
    by_cases same : other = tx
    · subst same
      rw [Function.update_self]
      exact follows
    · obtain ⟨sources, credentials⟩ := advances.frames other same
      rw [Function.update_of_ne same]
      exact (sound.follows other).frame sound.credentialsOwned advances.assignments sources
        credentials

theorem Sound.advances_goto (sound : world.Sound) (phase : RotationPhase Uuid) :
    world.Advances (world.goto tx phase) tx phase :=
  ⟨rfl, rfl, rfl, rfl, sound.sourcesOwned, sound.credentialsOwned,
    fun _ _ => ⟨Table.Frame.refl _ _, Table.Frame.refl _ _⟩, rfl⟩

private theorem Sound.advances_lock (sound : world.Sound) (phase : RotationPhase Uuid)
    (free : world.sources.free tx dataSourceId = true) :
    world.Advances (({ world with sources := world.sources.lock tx dataSourceId }).goto tx phase)
      tx phase :=
  ⟨rfl, rfl, rfl, rfl, sound.sourcesOwned.lock free, sound.credentialsOwned,
    fun _ apart => ⟨Table.frame_lock free apart, Table.Frame.refl _ _⟩, rfl⟩

theorem Sound.advances_sources (sound : world.Sound) (phase : RotationPhase Uuid)
    (value : Option (DataSource Uuid)) (free : world.sources.free tx dataSourceId = true) :
    world.Advances (({ world with
      sources := world.sources.write tx dataSourceId value }).goto tx phase) tx phase :=
  ⟨rfl, rfl, rfl, rfl, sound.sourcesOwned.write free value, sound.credentialsOwned,
    fun _ apart => ⟨Table.frame_write free value apart, Table.Frame.refl _ _⟩, rfl⟩

theorem Sound.advances_credentials (sound : world.Sound) (phase : RotationPhase Uuid)
    (value : Option (Credential Uuid)) (free : world.credentials.free tx credentialId = true) :
    world.Advances (({ world with
      credentials := world.credentials.write tx credentialId value }).goto tx phase) tx phase :=
  ⟨rfl, rfl, rfl, rfl, sound.sourcesOwned, sound.credentialsOwned.write free value,
    fun _ apart => ⟨Table.Frame.refl _ _, Table.frame_write free value apart⟩, rfl⟩

theorem Sound.rollback (sound : world.Sound) (tx : Tx) : (world.rollback tx).Sound := by
  have advances : world.Advances (world.rollback tx) tx .idle :=
    ⟨rfl, rfl, rfl, rfl, sound.sourcesOwned.release tx, sound.credentialsOwned.release tx,
      fun _ apart => ⟨Table.frame_release apart, Table.frame_release apart⟩, rfl⟩
  exact sound.advance advances ⟨Function.update_self .., Function.update_self ..⟩

private theorem Sound.commit_quiet (sound : world.Sound) (quiet : world.Quiet tx) :
    (world.commit tx).Sound := by
  have advances : world.Advances (world.commit tx) tx .idle :=
    ⟨Table.committed_of_quiet quiet.1, Table.committed_of_quiet quiet.2, rfl, rfl,
      sound.sourcesOwned.release tx, sound.credentialsOwned.release tx,
      fun _ apart => ⟨Table.frame_commit sound.sourcesOwned apart,
        Table.frame_commit sound.credentialsOwned apart⟩, rfl⟩
  exact sound.advance advances ⟨Function.update_self .., Function.update_self ..⟩

theorem Sound.commit (sound : world.Sound) {row : DataSource Uuid} {testedWith : Uuid → Option Uuid}
    (wrote : world.sources.Wrote tx dataSourceId row)
    (foreign : ∀ credentialId credential, credential.dataSourceId ≠ dataSourceId →
      ((world.credentials.view tx).lookup credentialId = some credential ↔
        world.credentials.committed.lookup credentialId = some credential))
    (clean : CleanSource (world.credentials.view tx) dataSourceId row.credentialReference)
    (tested : row.lastTestStatus ≠ .untested → testedWith dataSourceId = row.credentialReference)
    (others : ∀ other, other ≠ dataSourceId → testedWith other = world.testedWith other) :
    Sound { world.commit tx with testedWith } := by
  refine ⟨sound.sourcesOwned.release tx, sound.credentialsOwned.release tx, ⟨?_, ?_⟩, ?_,
    fun other => ?_⟩
  · intro other found present
    change (world.sources.view tx).lookup other = some found at present
    by_cases same : other = dataSourceId
    · subst same
      obtain rfl := Option.some.inj (wrote.view_self.symm.trans present)
      exact clean
    · have before := sound.clean.credentials other found ((wrote.view_other same).symm.trans present)
      constructor
      · intro credentialId refers
        obtain ⟨credential, held, own, current⟩ := before.current credentialId refers
        exact ⟨credential, (foreign credentialId credential (own ▸ same)).mpr held, own, current⟩
      · intro credentialId credential held own apart
        exact before.others credentialId credential
          ((foreign credentialId credential (own ▸ same)).mp held) own apart
  · intro other found present status
    change (world.sources.view tx).lookup other = some found at present
    change testedWith other = _
    by_cases same : other = dataSourceId
    · subst same
      obtain rfl := Option.some.inj (wrote.view_self.symm.trans present)
      exact tested status
    · rw [others other same]
      exact sound.clean.tested other found ((wrote.view_other same).symm.trans present) status
  · intro credentialId credential held
    change ((world.sources.view tx).lookup credential.dataSourceId).isSome = true
    by_cases same : credential.dataSourceId = dataSourceId
    · rw [same, wrote.view_self]
      rfl
    · rw [wrote.view_other same]
      exact sound.backed credentialId credential ((foreign credentialId credential same).mp held)
  · by_cases same : other = tx
    · subst same
      change Follows _ other (Function.update world.phase other .idle other)
      rw [Function.update_self]
      exact ⟨Function.update_self .., Function.update_self ..⟩
    · change Follows _ other (Function.update world.phase tx .idle other)
      rw [Function.update_of_ne same]
      exact (sound.follows other).frame sound.credentialsOwned rfl
        (Table.frame_commit sound.sourcesOwned same) (Table.frame_commit sound.credentialsOwned same)

theorem Sound.attempt (sound : world.Sound) {outcome : Except Failure (Catalog Uuid)}
    {proceed : Catalog Uuid → RotationWorld Tx Uuid}
    (passed : ∀ after, outcome = .ok after → (proceed after).Sound) :
    (world.attempt tx outcome proceed).Sound := by
  cases outcome with
  | ok after => exact passed after rfl
  | error failure => exact sound.rollback tx

omit [DecidableEq Tx] in
theorem insertCredential_eq_ok {settings : SourceSettings Uuid} {actorId : Uuid}
    {sourceType : String} {credentials : Dict} {now : Int} {after : Catalog Uuid}
    (inserted : world.insertCredential settings tx actorId dataSourceId sourceType credentials
      credentialId now = .ok after) :
    (world.credentials.view tx).lookup credentialId = none ∧ ∃ credential,
      after.credentials.lookup credentialId = some credential ∧
        credential.dataSourceId = dataSourceId ∧ credential.supersededAt = none := by
  unfold insertCredential at inserted
  obtain ⟨encrypted, _, inserted⟩ := bind_eq_ok inserted
  obtain ⟨absent, rfl⟩ := insertCredential_ok inserted
  exact ⟨absent, _, AList.lookup_insert _, rfl, rfl⟩

theorem credits_of_inserted {value : Option (Credential Uuid)} {credential : Credential Uuid}
    (quiet : world.credentials.pending tx = ∅)
    (absent : (world.credentials.view tx).lookup credentialId = none)
    (stored : value = some credential) (own : credential.dataSourceId = dataSourceId)
    (current : credential.supersededAt = none) :
    (({ world with credentials := world.credentials.write tx credentialId value }).goto tx
      phase).Credits tx dataSourceId credentialId := by
  rw [Table.view_of_quiet quiet] at absent
  exact ⟨absent, credential, Table.wrote_of_quiet quiet stored, own, current⟩

omit [DecidableEq Tx] in
theorem referenced_row {workspaceId actorId : Uuid} {row : DataSource Uuid} {now : Int}
    (wrote : world.sources.Wrote tx dataSourceId row)
    (visible : (world.catalog tx).visible workspaceId dataSourceId row = true) :
    (updateCredentialReference (world.catalog tx) workspaceId dataSourceId credentialId actorId
      now).dataSources.lookup dataSourceId =
        some ((row.referring credentialId).stamped now (some actorId)) := by
  have present : (world.catalog tx).dataSources.lookup dataSourceId = some row := wrote.view_self
  rw [updateCredentialReference_visible present visible]
  exact AList.lookup_insert _

section Creation

variable {settings : SourceSettings Uuid} {request : SourceRequest Uuid} {payload : SourcePayload}
  {tenantId generated : Uuid} {now : Int} {outcome : TestStatus}

private theorem Sound.inserting (sound : world.Sound)
    (follows : world.Follows tx (.inserting request payload tenantId))
    (stepped : world.proceed settings tx generated now outcome
      (.inserting request payload tenantId) = some next) : next.Sound := by
  dsimp only [RotationWorld.proceed] at stepped
  split_ifs at stepped with free
  obtain rfl := Option.some.inj stepped
  refine sound.attempt fun after inserted => ?_
  obtain ⟨absent, written⟩ := insertSource_ok inserted
  obtain ⟨sourceName, description, _, _, rfl⟩ := writeSource_ok written
  change (world.sources.view tx).lookup generated = none at absent
  rw [Table.view_of_quiet follows.1] at absent
  refine sound.advance (sound.advances_sources _ _ free) ⟨⟨Function.update_self .., absent⟩, ?_,
    follows.2⟩
  exact ⟨_, Table.wrote_of_quiet follows.1 (AList.lookup_insert _), rfl⟩

private theorem Sound.crediting (sound : world.Sound)
    (follows : world.Follows tx (.crediting request payload dataSourceId))
    (stepped : world.proceed settings tx generated now outcome
      (.crediting request payload dataSourceId) = some next) : next.Sound := by
  obtain ⟨fresh, stores, quiet⟩ := follows
  dsimp only [RotationWorld.proceed] at stepped
  split_ifs at stepped with free
  obtain rfl := Option.some.inj stepped
  refine sound.attempt fun after inserted => ?_
  obtain ⟨absent, credential, stored, own, current⟩ := insertCredential_eq_ok inserted
  exact sound.advance (sound.advances_credentials _ _ free)
    ⟨⟨fresh.held, fresh.absent⟩, stores, credits_of_inserted quiet absent stored own current⟩

private theorem Sound.referencing (sound : world.Sound)
    (follows : world.Follows tx (.referencing request dataSourceId credentialId))
    (stepped : world.proceed settings tx generated now outcome
      (.referencing request dataSourceId credentialId) = some next) : next.Sound := by
  obtain ⟨fresh, ⟨row, wrote, own⟩, credits⟩ := follows
  obtain rfl := Option.some.inj stepped
  have visible : (world.catalog tx).visible request.workspaceId dataSourceId row = true := by
    unfold Catalog.visible
    rw [own, beq_self_eq_true, Bool.true_or]
  refine sound.advance (sound.advances_sources _ _ (Table.free_of_held fresh.held))
    ⟨⟨Function.update_self .., fresh.absent⟩, ?_, credits⟩
  exact ⟨_, wrote.again (referenced_row wrote visible), rfl, rfl⟩

private theorem Sound.created (sound : world.Sound)
    (follows : world.Follows tx (.created dataSourceId credentialId)) :
    (world.commit tx).Sound := by
  obtain ⟨fresh, ⟨row, wrote, refers, untested⟩, credits⟩ := follows
  refine sound.commit wrote credits.foreign ?_ (fun tested => absurd untested tested)
    fun _ _ => rfl
  rw [refers]
  exact credits.clean fresh sound

end Creation

section Updates

variable {settings : SourceSettings Uuid} {request : SourceRequest Uuid} {update : SourceUpdate}
  {current : DataSource Uuid} {generated : Uuid} {now : Int} {outcome : TestStatus}

private theorem Sound.updating (sound : world.Sound)
    (follows : world.Follows tx (.updating request dataSourceId update current))
    (stepped : world.proceed settings tx generated now outcome
      (.updating request dataSourceId update current) = some next) : next.Sound := by
  obtain ⟨locked, visible, quiet⟩ := follows
  obtain rfl := Option.some.inj stepped
  refine sound.attempt fun after written => ?_
  have present : (world.catalog tx).dataSources.lookup dataSourceId = some current := by
    change (world.sources.view tx).lookup dataSourceId = _
    rw [Table.view_of_quiet quiet.1]
    exact locked.committed
  obtain ⟨edited, edits⟩ := writeMetadata_written present written
  obtain ⟨_, _, _, rest⟩ := edits.rest
  refine sound.advance (sound.advances_sources _ _ (Table.free_of_held locked.held))
    ⟨⟨Function.update_self .., locked.committed⟩, visible,
      ⟨edited, Table.wrote_of_quiet quiet.1 edits.held, ?_, ?_, ?_⟩, quiet.2⟩
  · exact (congrArg DataSource.workspaceId rest :)
  · exact (congrArg DataSource.credentialReference rest :)
  · exact (congrArg DataSource.lastTestStatus rest :)

private theorem Sound.described_commit (sound : world.Sound)
    (follows : world.Follows tx (.described request dataSourceId update current)) :
    (world.commit tx).Sound := by
  obtain ⟨locked, _, ⟨row, wrote, _, reference, status⟩, quiet⟩ := follows
  refine sound.commit wrote (fun other credential _ => view_of_quiet_iff quiet other credential) ?_
    ?_ fun _ _ => rfl
  · rw [Table.view_of_quiet quiet, reference]
    exact sound.clean.credentials dataSourceId current locked.committed
  · rw [status, reference]
    exact sound.clean.tested dataSourceId current locked.committed

private theorem Sound.described (sound : world.Sound)
    (follows : world.Follows tx (.described request dataSourceId update current))
    (stepped : world.proceed settings tx generated now outcome
      (.described request dataSourceId update current) = some next) : next.Sound := by
  dsimp only [RotationWorld.proceed] at stepped
  split at stepped
  · obtain rfl := Option.some.inj stepped
    exact sound.described_commit follows
  · obtain ⟨locked, visible, keeps, quiet⟩ := follows
    split_ifs at stepped with free
    obtain rfl := Option.some.inj stepped
    refine sound.attempt fun after inserted => ?_
    obtain ⟨absent, credential, stored, own, unsuperseded⟩ := insertCredential_eq_ok inserted
    exact sound.advance (sound.advances_credentials _ _ free)
      ⟨⟨locked.held, locked.committed⟩, visible, keeps,
        credits_of_inserted quiet absent stored own unsuperseded⟩

private theorem Sound.credited (sound : world.Sound)
    (follows : world.Follows tx (.credited request dataSourceId current credentialId))
    (stepped : world.proceed settings tx generated now outcome
      (.credited request dataSourceId current credentialId) = some next) : next.Sound := by
  obtain ⟨locked, visible, ⟨row, wrote, own, _⟩, credits⟩ := follows
  obtain rfl := Option.some.inj stepped
  have sees : (world.catalog tx).visible request.workspaceId dataSourceId row = true := by
    unfold Catalog.visible at visible ⊢
    rwa [own]
  refine sound.advance (sound.advances_sources _ _ (Table.free_of_held locked.held))
    ⟨⟨Function.update_self .., locked.committed⟩, ?_, credits⟩
  exact ⟨_, wrote.again (referenced_row wrote sees), rfl, rfl⟩

omit [DecidableEq Tx] in
private theorem superseded_row {catalog : Catalog Uuid} {old : Uuid} {credential : Credential Uuid}
    (held : catalog.credentials.lookup old = some credential)
    (current : credential.supersededAt = none) :
    (catalog.supersede old now).credentials.lookup old =
      some { credential with supersededAt := some now } := by
  unfold Catalog.supersede
  rw [held]
  dsimp only
  rw [if_pos (Option.isNone_iff_eq_none.mpr current)]
  exact AList.lookup_insert _

private theorem Credits.replaces (credits : world.Credits tx dataSourceId credentialId) :
    (world.goto tx phase).Replaces tx dataSourceId none credentialId := by
  obtain ⟨absent, credential, wrote, own, current⟩ := credits
  exact ⟨absent, ⟨credential, wrote.written, own, current⟩, nofun,
    fun other apart _ => wrote.others other apart⟩

theorem Credits.supersede (credits : world.Credits tx dataSourceId credentialId) {old : Uuid}
    {value : Option (Credential Uuid)} {superseded : Credential Uuid} (apart : old ≠ credentialId)
    (stored : value = some superseded) (own : superseded.dataSourceId = dataSourceId)
    (marked : superseded.supersededAt.isSome = true) :
    (({ world with credentials := world.credentials.write tx old value }).goto tx
      phase).Replaces tx dataSourceId (some old) credentialId := by
  obtain ⟨absent, credential, wrote, belongs, current⟩ := credits
  subst stored
  have pending : ((({ world with
      credentials := world.credentials.write tx old (some superseded) }).goto tx
        phase).credentials.pending tx) = (world.credentials.pending tx).insert old (some superseded) :=
    Table.pending_write_self _
  constructor
  · exact absent
  · rw [pending]
    exact ⟨credential, (AList.lookup_insert_ne apart.symm).trans wrote.written, belongs, current⟩
  · rw [pending]
    rintro _ ⟨⟩
    exact ⟨superseded, AList.lookup_insert _, own, marked⟩
  · intro other different unnamed
    rw [pending, AList.lookup_insert_ne fun same => unnamed (congrArg some same.symm)]
    exact wrote.others other different

private theorem Sound.referred (sound : world.Sound)
    (follows : world.Follows tx (.referred dataSourceId current credentialId))
    (stepped : world.proceed settings tx generated now outcome
      (.referred dataSourceId current credentialId) = some next) : next.Sound := by
  obtain ⟨locked, refers, credits⟩ := follows
  dsimp only [RotationWorld.proceed] at stepped
  split at stepped
  · rename_i unset
    obtain rfl := Option.some.inj stepped
    refine sound.advance (sound.advances_goto _) ⟨⟨locked.held, locked.committed⟩, refers, ?_⟩
    rw [unset]
    exact credits.replaces
  · rename_i old refersTo
    split_ifs at stepped with free
    obtain rfl := Option.some.inj stepped
    -- The old credential is as the clean committed state has it.
    obtain ⟨credential, held, own, unsuperseded⟩ :=
      (sound.clean.credentials dataSourceId current locked.committed).current old refersTo
    have apart : old ≠ credentialId := by
      rintro rfl
      rw [credits.1] at held
      cases held
    have seen : (world.catalog tx).credentials.lookup old = some credential := by
      obtain ⟨_, _, wrote, _⟩ := credits
      exact (wrote.view_other apart).trans held
    refine sound.advance (sound.advances_credentials _ _ free)
      ⟨⟨locked.held, locked.committed⟩, refers, ?_⟩
    rw [refersTo]
    exact credits.supersede apart (superseded_row seen unsuperseded) own rfl

private theorem Sound.rotated (sound : world.Sound)
    (follows : world.Follows tx (.rotated dataSourceId current credentialId)) :
    (world.commit tx).Sound := by
  obtain ⟨locked, ⟨row, wrote, refers, untested⟩, replaces⟩ := follows
  have clean := sound.clean.credentials dataSourceId current locked.committed
  refine sound.commit wrote (replaces.foreign clean) ?_ (fun tested => absurd untested tested)
    fun _ _ => rfl
  rw [refers]
  exact replaces.clean clean

end Updates

section Tests

variable {settings : SourceSettings Uuid} {request : SourceRequest Uuid}
  {current : DataSource Uuid} {status : TestStatus} {testedAt now : Int}

private theorem Sound.recordTest (sound : world.Sound) (quiet : world.Quiet tx)
    (free : world.sources.free tx dataSourceId = true)
    (undisturbed : ∀ row, (world.sources.view tx).lookup dataSourceId = some row →
      row.credentialReference = current.credentialReference) :
    (world.recordTest tx request dataSourceId current status testedAt now).Sound := by
  unfold RotationWorld.recordTest
  split
  · exact sound.commit_quiet quiet
  · rename_i row found
    have seen := (Option.filter_eq_some_iff.mp found).1
    have committed : world.sources.committed.lookup dataSourceId = some row := by
      rw [← Table.view_of_quiet quiet.1]
      exact seen
    exact sound.advance (sound.advances_sources _ _ free)
      ⟨row, ⟨Function.update_self .., committed⟩, undisturbed row seen,
        ⟨_, Table.wrote_of_quiet quiet.1 rfl, rfl⟩, quiet.2⟩

private theorem Sound.recorded (sound : world.Sound)
    (follows : world.Follows tx (.recorded dataSourceId current)) :
    Sound { world.commit tx with
      testedWith := Function.update world.testedWith dataSourceId current.credentialReference } := by
  obtain ⟨before, locked, same, ⟨row, wrote, kept⟩, quiet⟩ := follows
  refine sound.commit wrote (fun other credential _ => view_of_quiet_iff quiet other credential) ?_
    (fun _ => ?_) fun other apart => Function.update_of_ne apart _ _
  · rw [Table.view_of_quiet quiet, kept]
    exact sound.clean.credentials dataSourceId before locked.committed
  · rw [Function.update_self, kept, same]

end Tests

/-- No rotation overtakes a test: when the outcome is written, the source refers to the credential
that was tested. -/
def undisturbed (world : RotationWorld Tx Uuid) : Tx × RotationAction Uuid → Bool
  | (tx, .proceed ..) =>
    match world.phase tx with
    | .tested _ dataSourceId current _ _ =>
      ((world.sources.view tx).lookup dataSourceId).all
        (·.credentialReference == current.credentialReference)
    | _ => true
  | _ => true

theorem Sound.begin (sound : world.Sound) {settings : SourceSettings Uuid} {call : RotationCall Uuid}
    (quiet : world.Quiet tx) (begun : world.begin settings tx call = some next) : next.Sound := by
  cases call with
  | create request payload =>
    dsimp only [RotationWorld.begin] at begun
    split at begun
    · obtain rfl := Option.some.inj begun
      exact sound.advance (sound.advances_goto _) quiet
    · obtain rfl := Option.some.inj begun
      exact sound.rollback tx
  | update request dataSourceId update =>
    dsimp only [RotationWorld.begin] at begun
    split at begun
    · obtain rfl := Option.some.inj begun
      exact sound.rollback tx
    · split at begun
      · rename_i current _ found
        split_ifs at begun with free
        obtain rfl := Option.some.inj begun
        obtain ⟨seen, visible⟩ := findSource_ok found
        change (world.sources.view tx).lookup dataSourceId = _ at seen
        rw [Table.view_of_quiet quiet.1] at seen
        exact sound.advance (sound.advances_lock _ free)
          ⟨⟨Function.update_self .., seen⟩, visible, quiet⟩
      · obtain rfl := Option.some.inj begun
        exact sound.rollback tx
  | testConnection request dataSourceId =>
    dsimp only [RotationWorld.begin] at begun
    split at begun
    · split_ifs at begun
      · obtain rfl := Option.some.inj begun
        exact sound.rollback tx
      · obtain rfl := Option.some.inj begun
        exact sound.advance (sound.advances_goto _) quiet
    · obtain rfl := Option.some.inj begun
      exact sound.rollback tx

theorem Sound.proceed (sound : world.Sound) {settings : SourceSettings Uuid} {generated : Uuid}
    {now : Int} {outcome : TestStatus} {phase : RotationPhase Uuid} (at_ : world.phase tx = phase)
    (undisturbed : world.undisturbed (tx, .proceed generated now outcome) = true)
    (stepped : world.proceed settings tx generated now outcome phase = some next) : next.Sound := by
  have follows := sound.follows tx
  rw [at_] at follows
  cases phase with
  | idle => cases stepped
  | inserting => exact sound.inserting follows stepped
  | crediting => exact sound.crediting follows stepped
  | referencing => exact sound.referencing follows stepped
  | created =>
    obtain rfl := Option.some.inj stepped
    exact sound.created follows
  | updating => exact sound.updating follows stepped
  | described => exact sound.described follows stepped
  | credited => exact sound.credited follows stepped
  | referred => exact sound.referred follows stepped
  | rotated =>
    obtain rfl := Option.some.inj stepped
    exact sound.rotated follows
  | decrypting =>
    dsimp only [RotationWorld.proceed] at stepped
    split at stepped
    · obtain rfl := Option.some.inj stepped
      exact sound.rollback tx
    · obtain rfl := Option.some.inj stepped
      exact sound.advance (sound.advances_goto _) follows
  | connecting =>
    dsimp only [RotationWorld.proceed] at stepped
    split_ifs at stepped
    · obtain rfl := Option.some.inj stepped
      exact sound.advance (sound.advances_goto _) follows
    · obtain rfl := Option.some.inj stepped
      exact sound.advance (sound.advances_goto _) follows
  | tested =>
    dsimp only [RotationWorld.proceed] at stepped
    split_ifs at stepped with free
    obtain rfl := Option.some.inj stepped
    refine sound.recordTest follows free fun row seen => ?_
    dsimp only [RotationWorld.undisturbed] at undisturbed
    rw [at_] at undisturbed
    dsimp only at undisturbed
    rw [seen] at undisturbed
    exact beq_iff_eq.mp undisturbed
  | recorded =>
    obtain rfl := Option.some.inj stepped
    exact sound.recorded follows

private theorem Sound.step (sound : world.Sound) {settings : SourceSettings Uuid}
    {action : Tx × RotationAction Uuid} (undisturbed : world.undisturbed action = true)
    (stepped : world.step settings action = some next) : next.Sound := by
  obtain ⟨tx, action⟩ := action
  cases action with
  | begin call =>
    dsimp only [RotationWorld.step] at stepped
    split at stepped
    · rename_i idle
      have quiet := sound.follows tx
      rw [idle] at quiet
      exact sound.begin quiet stepped
    · cases stepped
  | proceed => exact sound.proceed rfl undisturbed stepped
  | abort =>
    dsimp only [RotationWorld.step] at stepped
    split at stepped
    · cases stepped
    · obtain rfl := Option.some.inj stepped
      exact sound.rollback tx

omit [DecidableEq Tx] in
private theorem sound_start {catalog : Catalog Uuid} {testedWith : Uuid → Option Uuid}
    (clean : (start catalog testedWith : RotationWorld Tx Uuid).Clean)
    (backed : ∀ credentialId credential, catalog.credentials.lookup credentialId = some credential →
      (catalog.dataSources.lookup credential.dataSourceId).isSome = true) :
    (start catalog testedWith : RotationWorld Tx Uuid).Sound :=
  ⟨Table.owned_quiet _, Table.owned_quiet _, clean, backed, fun _ => ⟨rfl, rfl⟩⟩

end Steps

/-- Credentials rotate cleanly in every run whose rotations overtake no test. -/
theorem credentials_rotate_cleanly (settings : SourceSettings Uuid) {catalog : Catalog Uuid}
    {testedWith : Uuid → Option Uuid} {schedule : List (Tx × RotationAction Uuid)}
    {reached : RotationWorld Tx Uuid} (clean : (start catalog testedWith : RotationWorld Tx Uuid).Clean)
    (backed : ∀ credentialId credential, catalog.credentials.lookup credentialId = some credential →
      (catalog.dataSources.lookup credential.dataSourceId).isSome = true)
    (undisturbed : RunMeets (step settings) (fun world action => world.undisturbed action = true)
      (start catalog testedWith : RotationWorld Tx Uuid) schedule)
    (ran : run (step settings) (start catalog testedWith) schedule = some reached) :
    reached.Clean := by
  have sound : reached.Sound :=
    run_preserves (fun _ _ _ sound undisturbed stepped => Sound.step sound undisturbed stepped)
      (sound_start clean backed) undisturbed ran
  exact sound.clean

end RotationWorld

/-! A source 5 of workspace 10, created under credentials 6, which are rotated to credentials 7. -/

private def rotationRequest : SourceRequest Nat := ⟨10, 1, 3, "workspace_administrator"⟩

private def creationBegins (tx : Nat) (name : String) : Nat × RotationAction Nat :=
  (tx, .begin (.create rotationRequest ⟨name, "csv", "direct", "staging", none, []⟩))

private def rotationBegins (tx : Nat) : Nat × RotationAction Nat :=
  (tx, .begin (.update rotationRequest 5 ⟨none, none, none, some [], none, none⟩))

private def testBegins (tx : Nat) : Nat × RotationAction Nat :=
  (tx, .begin (.testConnection rotationRequest 5))

private def proceedings (statements : List (Nat × Nat)) : List (Nat × RotationAction Nat) :=
  statements.mapIdx fun now (tx, generated) => (tx, .proceed generated now .reachable)

/-- Another source 8 is created while the credentials of source 5 are rotated, and then two tests of
source 5 run at the same time. -/
private def overlappingRotation : List (Nat × RotationAction Nat) :=
  creationBegins 0 "exports" :: proceedings [(0, 5), (0, 6), (0, 0), (0, 0)] ++
    [rotationBegins 1, creationBegins 2 "imports"] ++
    proceedings [(1, 0), (2, 8), (1, 7), (2, 9), (1, 0), (2, 0), (1, 0), (2, 0), (1, 0)] ++
    [testBegins 3, testBegins 4] ++
    proceedings [(3, 0), (4, 0), (3, 0), (4, 0), (3, 0), (3, 0), (4, 0), (4, 0)]

/-- A test is begun before a rotation, and writes its outcome after it. -/
private def overtakenTest : List (Nat × RotationAction Nat) :=
  creationBegins 0 "exports" :: proceedings [(0, 5), (0, 6), (0, 0), (0, 0)] ++
    testBegins 2 :: proceedings [(2, 0), (2, 0)] ++
    rotationBegins 1 :: proceedings [(1, 0), (1, 7), (1, 0), (1, 0), (1, 0), (2, 0), (2, 0)]

private def rotationStart : RotationWorld Nat Nat :=
  RotationWorld.start (Catalog.empty demoWorkspaces) fun _ => none

private theorem rotationStart_clean : rotationStart.Clean := by
  constructor
  · intro _ _ found
    cases found
  · intro _ _ found
    cases found

theorem rotated_then_tested :
    ∃ reached, run (RotationWorld.step demoSettings) rotationStart overlappingRotation =
        some reached ∧
      (reached.sources.committed.lookup 5).map (fun row =>
        (row.credentialReference, row.lastTestStatus)) = some (some 7, .reachable) ∧
      reached.Clean := by
  have undisturbed : RunMeets (RotationWorld.step demoSettings)
      (fun world action => world.undisturbed action = true) rotationStart
      overlappingRotation := by decide +kernel
  have ended : ((run (RotationWorld.step demoSettings) rotationStart overlappingRotation).bind
      fun reached => (reached.sources.committed.lookup 5).map fun row =>
        (row.credentialReference, row.lastTestStatus)) = some (some 7, .reachable) := by
    decide +kernel
  obtain ⟨reached, ran, tested⟩ := Option.bind_eq_some_iff.mp ended
  exact ⟨reached, ran, tested, RotationWorld.credentials_rotate_cleanly demoSettings
    rotationStart_clean (fun _ _ found => nomatch found) undisturbed ran⟩

/-- A rotation between a test and its outcome. -/
theorem rotated_during_test :
    ∃ reached, run (RotationWorld.step demoSettings) rotationStart overtakenTest =
        some reached ∧ ¬reached.Clean := by
  refine ⟨_, rfl, fun clean => ?_⟩
  have outcome := clean.tested 5 _ (by rfl) (by decide +kernel)
  revert outcome
  decide +kernel

end CogniDQ.Sources
