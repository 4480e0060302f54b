import LadderAtlas.Ladder.Instruction

/-! # The standard instructions

The ladder instructions of the controllers, by group. Operands beyond the listed roles are read
unless `rest` says otherwise. -/

namespace LadderAtlas.Ladder

def standardSignatures : List Signature := [
  -- Bit
  { mnemonic := "XIC", roles := [.read] },
  { mnemonic := "XIO", roles := [.read] },
  { mnemonic := "OTE", roles := [.write] },
  { mnemonic := "OTL", roles := [.write] },
  { mnemonic := "OTU", roles := [.write] },
  { mnemonic := "ONS", roles := [.readWrite] },
  { mnemonic := "OSR", roles := [.readWrite, .write] },
  { mnemonic := "OSF", roles := [.readWrite, .write] },
  -- Timer / counter (structure first, then preset and accumulator)
  { mnemonic := "TON", roles := [.readWrite, .read, .read] },
  { mnemonic := "TOF", roles := [.readWrite, .read, .read] },
  { mnemonic := "RTO", roles := [.readWrite, .read, .read] },
  { mnemonic := "CTU", roles := [.readWrite, .read, .read] },
  { mnemonic := "CTD", roles := [.readWrite, .read, .read] },
  { mnemonic := "CTUD", roles := [.readWrite, .read, .read] },
  { mnemonic := "RES", roles := [.write] },
  { mnemonic := "TONR", roles := [.readWrite], rest := some .read },
  { mnemonic := "TOFR", roles := [.readWrite], rest := some .read },
  { mnemonic := "RTOR", roles := [.readWrite], rest := some .read },
  -- Compare
  { mnemonic := "EQU", roles := [.read, .read] },
  { mnemonic := "NEQ", roles := [.read, .read] },
  { mnemonic := "LES", roles := [.read, .read] },
  { mnemonic := "LEQ", roles := [.read, .read] },
  { mnemonic := "GRT", roles := [.read, .read] },
  { mnemonic := "GEQ", roles := [.read, .read] },
  { mnemonic := "LIM", roles := [.read, .read, .read] },
  { mnemonic := "MEQ", roles := [.read, .read, .read] },
  { mnemonic := "CMP", roles := [.expression] },
  -- Math
  { mnemonic := "ADD", roles := [.read, .read, .write] },
  { mnemonic := "SUB", roles := [.read, .read, .write] },
  { mnemonic := "MUL", roles := [.read, .read, .write] },
  { mnemonic := "DIV", roles := [.read, .read, .write] },
  { mnemonic := "MOD", roles := [.read, .read, .write] },
  { mnemonic := "XPY", roles := [.read, .read, .write] },
  { mnemonic := "NEG", roles := [.read, .write] },
  { mnemonic := "ABS", roles := [.read, .write] },
  { mnemonic := "SQR", roles := [.read, .write] },
  { mnemonic := "SQRT", roles := [.read, .write] },
  { mnemonic := "SIN", roles := [.read, .write] },
  { mnemonic := "COS", roles := [.read, .write] },
  { mnemonic := "TAN", roles := [.read, .write] },
  { mnemonic := "ASN", roles := [.read, .write] },
  { mnemonic := "ACS", roles := [.read, .write] },
  { mnemonic := "ATN", roles := [.read, .write] },
  { mnemonic := "LN", roles := [.read, .write] },
  { mnemonic := "LOG", roles := [.read, .write] },
  { mnemonic := "DEG", roles := [.read, .write] },
  { mnemonic := "RAD", roles := [.read, .write] },
  { mnemonic := "TRN", roles := [.read, .write] },
  { mnemonic := "TOD", roles := [.read, .write] },
  { mnemonic := "FRD", roles := [.read, .write] },
  { mnemonic := "CPT", roles := [.write, .expression] },
  { mnemonic := "SCP", roles := [.read, .read, .read, .read, .read, .write] },
  -- Move / logical
  { mnemonic := "MOV", roles := [.read, .write] },
  { mnemonic := "MVM", roles := [.read, .read, .write] },
  { mnemonic := "BTD", roles := [.read, .read, .readWrite, .read, .read] },
  { mnemonic := "CLR", roles := [.write] },
  { mnemonic := "SWPB", roles := [.read, .read, .write] },
  { mnemonic := "AND", roles := [.read, .read, .write] },
  { mnemonic := "OR", roles := [.read, .read, .write] },
  { mnemonic := "XOR", roles := [.read, .read, .write] },
  { mnemonic := "NOT", roles := [.read, .write] },
  { mnemonic := "BAND", rest := some .read },
  { mnemonic := "BOR", rest := some .read },
  { mnemonic := "BXOR", rest := some .read },
  { mnemonic := "BNOT", roles := [.read] },
  -- Array / file
  { mnemonic := "COP", roles := [.read, .write, .read] },
  { mnemonic := "CPS", roles := [.read, .write, .read] },
  { mnemonic := "FLL", roles := [.read, .write, .read] },
  { mnemonic := "AVE", roles := [.read, .read, .write, .readWrite, .read, .read] },
  { mnemonic := "STD", roles := [.read, .read, .write, .readWrite, .read, .read] },
  { mnemonic := "SRT", roles := [.readWrite, .read, .readWrite, .read, .read] },
  { mnemonic := "SIZE", roles := [.read, .read, .write] },
  { mnemonic := "FAL", roles := [.readWrite, .read, .read, .read, .write, .expression] },
  { mnemonic := "FSC", roles := [.readWrite, .read, .read, .read, .expression] },
  { mnemonic := "BSL", roles := [.readWrite, .readWrite, .read, .read] },
  { mnemonic := "BSR", roles := [.readWrite, .readWrite, .read, .read] },
  { mnemonic := "FFL", roles := [.read, .readWrite, .readWrite, .read, .read] },
  { mnemonic := "FFU", roles := [.readWrite, .write, .readWrite, .read, .read] },
  { mnemonic := "LFL", roles := [.read, .readWrite, .readWrite, .read, .read] },
  { mnemonic := "LFU", roles := [.readWrite, .write, .readWrite, .read, .read] },
  { mnemonic := "SQO", roles := [.read, .read, .write, .readWrite, .read, .read] },
  { mnemonic := "SQI", roles := [.read, .read, .read, .readWrite, .read, .read] },
  { mnemonic := "SQL", roles := [.write, .read, .readWrite, .read, .read] },
  { mnemonic := "DDT", roles := [.read, .readWrite, .write, .readWrite, .read, .read, .readWrite,
    .read, .read] },
  { mnemonic := "FBC", roles := [.read, .readWrite, .write, .readWrite, .read, .read, .readWrite,
    .read, .read] },
  { mnemonic := "DTR", roles := [.read, .read, .readWrite] },
  -- Program control
  { mnemonic := "JSR", roles := [.name, .read], rest := some .write, countAt := some 1 },
  { mnemonic := "JXR", roles := [.name, .readWrite, .read, .write] },
  { mnemonic := "SFR", roles := [.name, .name] },
  { mnemonic := "SFP", roles := [.name, .name] },
  { mnemonic := "SBR", rest := some .write },
  { mnemonic := "RET", rest := some .read },
  { mnemonic := "JMP", roles := [.name] },
  { mnemonic := "LBL", roles := [.name] },
  { mnemonic := "FOR", roles := [.name, .readWrite, .read, .read, .read] },
  { mnemonic := "BRK" },
  { mnemonic := "NOP" },
  { mnemonic := "AFI" },
  { mnemonic := "EOT" },
  { mnemonic := "TND" },
  { mnemonic := "MCR" },
  { mnemonic := "UID" },
  { mnemonic := "UIE" },
  { mnemonic := "EVENT", roles := [.name] },
  { mnemonic := "IOT", roles := [.read] },
  -- String / conversion
  { mnemonic := "DTOS", roles := [.read, .write] },
  { mnemonic := "STOD", roles := [.read, .write] },
  { mnemonic := "RTOS", roles := [.read, .write] },
  { mnemonic := "STOR", roles := [.read, .write] },
  { mnemonic := "UPPER", roles := [.read, .write] },
  { mnemonic := "LOWER", roles := [.read, .write] },
  { mnemonic := "CONCAT", roles := [.read, .read, .write] },
  { mnemonic := "MID", roles := [.read, .read, .read, .write] },
  { mnemonic := "DELETE", roles := [.read, .read, .read, .write] },
  { mnemonic := "INSERT", roles := [.read, .read, .read, .write] },
  { mnemonic := "FIND", roles := [.read, .read, .read, .write] },
  -- Communication / system
  { mnemonic := "MSG", roles := [.readWrite] },
  { mnemonic := "GSV", roles := [.name, .name, .name, .write] },
  { mnemonic := "SSV", roles := [.name, .name, .name, .read] },
  -- ASCII serial port (channel, data, control)
  { mnemonic := "ABL", roles := [.read, .readWrite] },
  { mnemonic := "ACB", roles := [.read, .readWrite] },
  { mnemonic := "ACL", roles := [.read, .read, .read] },
  { mnemonic := "AHL", roles := [.read, .read, .read, .readWrite, .write] },
  { mnemonic := "ARD", roles := [.read, .write, .readWrite] },
  { mnemonic := "ARL", roles := [.read, .write, .readWrite] },
  { mnemonic := "AWA", roles := [.read, .read, .readWrite] },
  { mnemonic := "AWT", roles := [.read, .read, .readWrite] },
  -- Motion (axis or group, motion control, then parameters)
  { mnemonic := "MSO", roles := [.readWrite, .readWrite] },
  { mnemonic := "MSF", roles := [.readWrite, .readWrite] },
  { mnemonic := "MASD", roles := [.readWrite, .readWrite] },
  { mnemonic := "MASR", roles := [.readWrite, .readWrite] },
  { mnemonic := "MDO", roles := [.readWrite, .readWrite], rest := some .read },
  { mnemonic := "MDF", roles := [.readWrite, .readWrite] },
  { mnemonic := "MDS", roles := [.readWrite, .readWrite], rest := some .read },
  { mnemonic := "MAFR", roles := [.readWrite, .readWrite] },
  { mnemonic := "MAS", roles := [.readWrite, .readWrite], rest := some .read },
  { mnemonic := "MAH", roles := [.readWrite, .readWrite] },
  { mnemonic := "MAJ", roles := [.readWrite, .readWrite], rest := some .read },
  { mnemonic := "MAM", roles := [.readWrite, .readWrite], rest := some .read },
  { mnemonic := "MAG", roles := [.readWrite, .read, .readWrite], rest := some .read },
  { mnemonic := "MCD", roles := [.readWrite, .readWrite], rest := some .read },
  { mnemonic := "MRP", roles := [.readWrite, .readWrite], rest := some .read },
  { mnemonic := "MAW", roles := [.readWrite, .readWrite], rest := some .read },
  { mnemonic := "MDW", roles := [.readWrite, .readWrite] },
  { mnemonic := "MAR", roles := [.readWrite, .readWrite], rest := some .read },
  { mnemonic := "MDR", roles := [.readWrite, .readWrite] },
  { mnemonic := "MAOC", roles := [.readWrite, .read, .readWrite, .write], rest := some .read },
  { mnemonic := "MDOC", roles := [.readWrite, .read, .readWrite] },
  { mnemonic := "MAPC", roles := [.readWrite, .read, .readWrite], rest := some .read },
  { mnemonic := "MATC", roles := [.readWrite, .readWrite], rest := some .read },
  { mnemonic := "MDAC", roles := [.readWrite, .read, .readWrite], rest := some .read },
  { mnemonic := "MGS", roles := [.readWrite, .readWrite], rest := some .read },
  { mnemonic := "MGSD", roles := [.readWrite, .readWrite] },
  { mnemonic := "MGSR", roles := [.readWrite, .readWrite] },
  { mnemonic := "MGSP", roles := [.readWrite, .readWrite] },
  { mnemonic := "MCS", roles := [.readWrite, .readWrite], rest := some .read },
  { mnemonic := "MCSD", roles := [.readWrite, .readWrite] },
  { mnemonic := "MCSR", roles := [.readWrite, .readWrite] },
  { mnemonic := "MCLM", roles := [.readWrite, .readWrite], rest := some .read },
  { mnemonic := "MCCM", roles := [.readWrite, .readWrite], rest := some .read },
  { mnemonic := "MCCD", roles := [.readWrite, .readWrite], rest := some .read },
  { mnemonic := "MCT", roles := [.readWrite, .readWrite, .readWrite], rest := some .read },
  { mnemonic := "MCTP", roles := [.readWrite, .readWrite], rest := some .read },
  -- Process
  { mnemonic := "PID", roles := [.readWrite, .read, .read, .write, .read, .read, .read, .read] },
  { mnemonic := "ALMD", roles := [.readWrite, .read, .read, .read, .read, .read] },
  { mnemonic := "ALMA", roles := [.readWrite, .read, .read, .read, .read] }]

/-- The table of the standard instructions. -/
def standardTable : Table := .ofList standardSignatures

end LadderAtlas.Ladder
