import DVoD.Evm.Word

/-!
# Names and nodes

The node of a name of EIP-137, a recursion over its labels, and the wire format of DNS,
which lists the labels by their lengths.  `nodeOfLabels_injective` needs the hash to be
free of collisions on what is hashed, and no more.
-/

namespace DVoD.Evm

/-! ### Nodes -/

section Nodes

variable (keccak256 : Bytes → Word)

def nodeOfLabels : List Bytes → Word
  | [] => 0
  | label :: labels => keccak256 ((nodeOfLabels labels).toBytes ++ (keccak256 label).toBytes)

/-- What is hashed on the way to the node. -/
def hashed : List Bytes → List Bytes
  | [] => []
  | label :: labels =>
      label :: ((nodeOfLabels keccak256 labels).toBytes ++ (keccak256 label).toBytes) :: hashed labels

structure CollisionFree (inputs : List Bytes) : Prop where
  injective : ∀ a ∈ inputs, ∀ b ∈ inputs, keccak256 a = keccak256 b → a = b
  ne_zero : ∀ a ∈ inputs, keccak256 a ≠ 0

variable {keccak256}

theorem CollisionFree.mono {inputs inputs' : List Bytes} (h : CollisionFree keccak256 inputs')
    (hsub : inputs ⊆ inputs') : CollisionFree keccak256 inputs := by
  constructor
  · intro a ha b hb heq
    exact h.injective a (hsub ha) b (hsub hb) heq
  · intro a ha
    exact h.ne_zero a (hsub ha)

theorem nodeOfLabels_injective {labels labels' : List Bytes}
    (h : CollisionFree keccak256 (hashed keccak256 labels ++ hashed keccak256 labels'))
    (heq : nodeOfLabels keccak256 labels = nodeOfLabels keccak256 labels') : labels = labels' := by
  induction labels generalizing labels' with
  | nil =>
    cases labels' with
    | nil => rfl
    | cons label' labels' => exact absurd heq.symm (h.ne_zero _ (by simp [hashed]))
  | cons label labels ih =>
    cases labels' with
    | nil => exact absurd heq (h.ne_zero _ (by simp [hashed]))
    | cons label' labels' =>
      have happend := h.injective _ (by simp [hashed]) _ (by simp [hashed]) heq
      obtain ⟨hnode, hlabel⟩ := List.append_inj happend (by simp)
      have hnode' := Word.toBytes_injective hnode
      have hlabel' := h.injective label (by simp [hashed]) label' (by simp [hashed])
        (Word.toBytes_injective hlabel)
      have hrest : hashed keccak256 labels ++ hashed keccak256 labels' ⊆
          hashed keccak256 (label :: labels) ++ hashed keccak256 (label' :: labels') := by
        intro a ha
        rcases List.mem_append.mp ha with ha | ha
        · exact List.mem_append_left _ (by simp [hashed, ha])
        · exact List.mem_append_right _ (by simp [hashed, ha])
      rw [hlabel', ih (h.mono hrest) hnode']

end Nodes

/-! ### The wire format -/

/-- A label behind its length. -/
def wireLabel (label : Bytes) : Bytes := UInt8.ofNat label.length :: label

def wireName (labels : List Bytes) : Bytes := (labels.map wireLabel).flatten ++ [0]

def decodeWireName : Bytes → Option (List Bytes)
  | [] => none
  | n :: rest =>
      if n = 0 then if rest = [] then some [] else none
      else if rest.length < n.toNat then none
      else (decodeWireName (rest.drop n.toNat)).map (rest.take n.toNat :: ·)
termination_by bytes => bytes.length
decreasing_by
  rw [List.length_drop, List.length_cons]
  omega

theorem decodeWireName_wireName {labels : List Bytes}
    (h : ∀ label ∈ labels, 0 < label.length ∧ label.length ≤ 63) :
    decodeWireName (wireName labels) = some labels := by
  induction labels with
  | nil => simp [wireName, decodeWireName]
  | cons label labels ih =>
    obtain ⟨hpos, hle⟩ := h label List.mem_cons_self
    have hlength : (UInt8.ofNat label.length).toNat = label.length := by
      simpa using Nat.mod_eq_of_lt (show label.length < 256 by omega)
    have hne : UInt8.ofNat label.length ≠ 0 := by
      intro hzero
      rw [hzero] at hlength
      have hzero' : 0 = label.length := hlength
      omega
    have hwire : wireName (label :: labels) =
        UInt8.ofNat label.length :: (label ++ wireName labels) := by
      simp [wireName, wireLabel]
    rw [hwire, decodeWireName, if_neg hne, hlength, if_neg (by simp), List.drop_left, List.take_left,
      ih fun l hl => h l (List.mem_cons_of_mem _ hl), Option.map_some]

end DVoD.Evm
