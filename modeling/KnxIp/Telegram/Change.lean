/-
  Changes: how a draft comes about, step by step.

  A draft begins with a destination and takes any number of changes in any order. Most of them set
  one field; becoming a control packet sets three at once.
-/
import KnxIp.Telegram.Draft

namespace KnxIp.Telegram.Draft

/-- A change of a draft. -/
inductive Change
  | messageCode (messageCode : MessageCode)
  | info (info : Bytes)
  | control1 (control1 : Control1)
  | control2 (control2 : Control2)
  | source (source : IndividualAddress)
  | tpci (tpci : Tpci)
  | apci (apci : Apci)
  /-- The draft becomes a control packet. -/
  | controlPacket (tpci : Tpci)
  | data (data : Bytes)
deriving DecidableEq, Repr

/-- The draft after a change. -/
def change (d : Draft) : Change → Draft
  | .messageCode messageCode => { d with messageCode }
  | .info info => d.withInfo info
  | .control1 control1 => { d with control1 }
  | .control2 control2 => { d with control2 := some control2 }
  | .source source => { d with source }
  | .tpci tpci => { d with tpci }
  | .apci apci => { d with apci := some apci }
  | .controlPacket tpci => d.asControlPacket tpci
  | .data data => d.withData data

/-- The draft after several changes. -/
def changeAll (d : Draft) (changes : List Change) : Draft := changes.foldl change d

theorem changeAll_concat (d : Draft) (changes : List Change) (x : Change) :
    d.changeAll (changes ++ [x]) = (d.changeAll changes).change x := by
  simp [changeAll]

end KnxIp.Telegram.Draft
