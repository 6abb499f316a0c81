/-!
# Names of characters: syllables

The scripts of South and Southeast Asia, of Ethiopia and of the first nations of Canada, and the
later additions to the Latin and the Greek alphabet.

## Main definitions

* `syllables` is the table.
-/

namespace TicketMigration.CharacterName

/-- The table.  Behind a colon stands the code of a character.  Each name begins with a small
letter, which says how many words it has in common with the name before, and is the name of the
next code. -/
def syllables : String :=
  ":900aDEVANAGARI SIGN INVERTED CANDRABINDUcCANDRABINDUcANUSVARAcVISARGAbLETTER SHORT AcAcAAcIcIIcU
cUUcVOCALIC RdLcCANDRA EcSHORT EcEcAIcCANDRA OcSHORT OcOcAUcKAcKHAcGAcGHAcNGAcCAcCHAcJAcJHAcNYA
cTTAcTTHAcDDAcDDHAcNNAcTAcTHAcDAcDHAcNAcNNNAcPAcPHAcBAcBHAcMAcYAcRAcRRAcLAcLLAcLLLAcVAcSHAcSSAcSA
cHAbVOWEL SIGN OEdOOEbSIGN NUKTAcAVAGRAHAbVOWEL SIGN AAdIdIIdUdUUdVOCALIC ReRRdCANDRA EdSHORT EdE
dAIdCANDRA OdSHORT OdOdAUbSIGN VIRAMAbVOWEL SIGN PRISHTHAMATRA EdAWbOMbSTRESS SIGN UDATTAdANUDATTA
bGRAVE ACCENTbACUTE ACCENTbVOWEL SIGN CANDRA LONG EdUEdUUEbLETTER QAcKHHAcGHHAcZAcDDDHAcRHAcFAcYYA
cVOCALIC RRdLLbVOWEL SIGN VOCALIC LeLLbDANDAbDOUBLE DANDAbDIGIT ZEROcONEcTWOcTHREEcFOURcFIVEcSIX
cSEVENcEIGHTcNINEbABBREVIATION SIGNbSIGN HIGH SPACING DOTbLETTER CANDRA AcOEcOOEcAWcUEcUUE
cMARWARI DDAcZHAcHEAVY YAcGGAcJJAcGLOTTAL STOPcDDDAcBBAaBENGALI ANJIbSIGN CANDRABINDUcANUSVARA
cVISARGA:985aBENGALI LETTER AcAAcIcIIcUcUUcVOCALIC RdL:98FaBENGALI LETTER EcAI:993
aBENGALI LETTER OcAUcKAcKHAcGAcGHAcNGAcCAcCHAcJAcJHAcNYAcTTAcTTHAcDDAcDDHAcNNAcTAcTHAcDAcDHAcNA
:9AAaBENGALI LETTER PAcPHAcBAcBHAcMAcYAcRA:9B2aBENGALI LETTER LA:9B6aBENGALI LETTER SHAcSSAcSAcHA
:9BCaBENGALI SIGN NUKTAcAVAGRAHAbVOWEL SIGN AAdIdIIdUdUUdVOCALIC ReRR:9C7aBENGALI VOWEL SIGN EdAI
:9CBaBENGALI VOWEL SIGN OdAUbSIGN VIRAMAbLETTER KHANDA TA:9D7aBENGALI AU LENGTH MARK:9DC
aBENGALI LETTER RRAcRHA:9DFaBENGALI LETTER YYAcVOCALIC RRdLLbVOWEL SIGN VOCALIC LeLL:9E6
aBENGALI DIGIT ZEROcONEcTWOcTHREEcFOURcFIVEcSIXcSEVENcEIGHTcNINEbLETTER RA WITH MIDDLE DIAGONAL
eLOWER DIAGONALbRUPEE MARKcSIGNbCURRENCY NUMERATOR ONEdTWOdTHREEdFOUR
dONE LESS THAN THE DENOMINATORcDENOMINATOR SIXTEENbISSHARbGANDA MARKbLETTER VEDIC ANUSVARA
bABBREVIATION SIGNbSANDHI MARK:A01aGURMUKHI SIGN ADAK BINDIcBINDIcVISARGA:A05aGURMUKHI LETTER AcAA
cIcIIcUcUU:A0FaGURMUKHI LETTER EEcAI:A13aGURMUKHI LETTER OOcAUcKAcKHAcGAcGHAcNGAcCAcCHAcJAcJHAcNYA
cTTAcTTHAcDDAcDDHAcNNAcTAcTHAcDAcDHAcNA:A2AaGURMUKHI LETTER PAcPHAcBAcBHAcMAcYAcRA:A32
aGURMUKHI LETTER LAcLLA:A35aGURMUKHI LETTER VAcSHA:A38aGURMUKHI LETTER SAcHA:A3C
aGURMUKHI SIGN NUKTA:A3EaGURMUKHI VOWEL SIGN AAdIdIIdUdUU:A47aGURMUKHI VOWEL SIGN EEdAI:A4B
aGURMUKHI VOWEL SIGN OOdAUbSIGN VIRAMA:A51aGURMUKHI SIGN UDAAT:A59aGURMUKHI LETTER KHHAcGHHAcZA
cRRA:A5EaGURMUKHI LETTER FA:A66aGURMUKHI DIGIT ZEROcONEcTWOcTHREEcFOURcFIVEcSIXcSEVENcEIGHTcNINE
bTIPPIbADDAKbIRIbURAbEK ONKARbSIGN YAKASHbABBREVIATION SIGN:A81aGUJARATI SIGN CANDRABINDUcANUSVARA
cVISARGA:A85aGUJARATI LETTER AcAAcIcIIcUcUUcVOCALIC RdLbVOWEL CANDRA E:A8FaGUJARATI LETTER EcAI
bVOWEL CANDRA O:A93aGUJARATI LETTER OcAUcKAcKHAcGAcGHAcNGAcCAcCHAcJAcJHAcNYAcTTAcTTHAcDDAcDDHAcNNA
cTAcTHAcDAcDHAcNA:AAAaGUJARATI LETTER PAcPHAcBAcBHAcMAcYAcRA:AB2aGUJARATI LETTER LAcLLA:AB5
aGUJARATI LETTER VAcSHAcSSAcSAcHA:ABCaGUJARATI SIGN NUKTAcAVAGRAHAbVOWEL SIGN AAdIdIIdUdUU
dVOCALIC ReRRdCANDRA E:AC7aGUJARATI VOWEL SIGN EdAIdCANDRA O:ACBaGUJARATI VOWEL SIGN OdAU
bSIGN VIRAMA:AD0aGUJARATI OM:AE0aGUJARATI LETTER VOCALIC RRdLLbVOWEL SIGN VOCALIC LeLL:AE6
aGUJARATI DIGIT ZEROcONEcTWOcTHREEcFOURcFIVEcSIXcSEVENcEIGHTcNINEbABBREVIATION SIGNbRUPEE SIGN:AF9
aGUJARATI LETTER ZHAbSIGN SUKUNcSHADDAcMADDAHcTHREE-DOT NUKTA ABOVEcCIRCLE NUKTA ABOVE
cTWO-CIRCLE NUKTA ABOVE:B01aORIYA SIGN CANDRABINDUcANUSVARAcVISARGA:B05aORIYA LETTER AcAAcIcIIcU
cUUcVOCALIC RdL:B0FaORIYA LETTER EcAI:B13aORIYA LETTER OcAUcKAcKHAcGAcGHAcNGAcCAcCHAcJAcJHAcNYA
cTTAcTTHAcDDAcDDHAcNNAcTAcTHAcDAcDHAcNA:B2AaORIYA LETTER PAcPHAcBAcBHAcMAcYAcRA:B32
aORIYA LETTER LAcLLA:B35aORIYA LETTER VAcSHAcSSAcSAcHA:B3CaORIYA SIGN NUKTAcAVAGRAHAbVOWEL SIGN AA
dIdIIdUdUUdVOCALIC ReRR:B47aORIYA VOWEL SIGN EdAI:B4BaORIYA VOWEL SIGN OdAUbSIGN VIRAMA:B55
aORIYA SIGN OVERLINEbAI LENGTH MARKbAU LENGTH MARK:B5CaORIYA LETTER RRAcRHA:B5FaORIYA LETTER YYA
cVOCALIC RRdLLbVOWEL SIGN VOCALIC LeLL:B66aORIYA DIGIT ZEROcONEcTWOcTHREEcFOURcFIVEcSIXcSEVEN
cEIGHTcNINEbISSHARbLETTER WAbFRACTION ONE QUARTERdHALFcTHREE QUARTERScONE SIXTEENTHdEIGHTH
cTHREE SIXTEENTHS:B82aTAMIL SIGN ANUSVARAcVISARGA:B85aTAMIL LETTER AcAAcIcIIcUcUU:B8E
aTAMIL LETTER EcEEcAI:B92aTAMIL LETTER OcOOcAUcKA:B99aTAMIL LETTER NGAcCA:B9CaTAMIL LETTER JA:B9E
aTAMIL LETTER NYAcTTA:BA3aTAMIL LETTER NNAcTA:BA8aTAMIL LETTER NAcNNNAcPA:BAEaTAMIL LETTER MAcYA
cRAcRRAcLAcLLAcLLLAcVAcSHAcSSAcSAcHA:BBEaTAMIL VOWEL SIGN AAdIdIIdUdUU:BC6aTAMIL VOWEL SIGN EdEE
dAI:BCAaTAMIL VOWEL SIGN OdOOdAUbSIGN VIRAMA:BD0aTAMIL OM:BD7aTAMIL AU LENGTH MARK:BE6
aTAMIL DIGIT ZEROcONEcTWOcTHREEcFOURcFIVEcSIXcSEVENcEIGHTcNINEbNUMBER TENcONE HUNDREDdTHOUSAND
bDAY SIGNbMONTH SIGNbYEAR SIGNbDEBIT SIGNbCREDIT SIGNbAS ABOVE SIGNbRUPEE SIGNbNUMBER SIGN:C00
aTELUGU SIGN COMBINING CANDRABINDU ABOVEcCANDRABINDUcANUSVARAcVISARGAcCOMBINING ANUSVARA ABOVE
bLETTER AcAAcIcIIcUcUUcVOCALIC RdL:C0EaTELUGU LETTER EcEEcAI:C12aTELUGU LETTER OcOOcAUcKAcKHAcGA
cGHAcNGAcCAcCHAcJAcJHAcNYAcTTAcTTHAcDDAcDDHAcNNAcTAcTHAcDAcDHAcNA:C2AaTELUGU LETTER PAcPHAcBAcBHA
cMAcYAcRAcRRAcLAcLLAcLLLAcVAcSHAcSSAcSAcHA:C3CaTELUGU SIGN NUKTAcAVAGRAHAbVOWEL SIGN AAdIdIIdUdUU
dVOCALIC ReRR:C46aTELUGU VOWEL SIGN EdEEdAI:C4AaTELUGU VOWEL SIGN OdOOdAUbSIGN VIRAMA:C55
aTELUGU LENGTH MARKbAI LENGTH MARK:C58aTELUGU LETTER TSAcDZAcRRRA:C5DaTELUGU LETTER NAKAARA POLLU
:C60aTELUGU LETTER VOCALIC RRdLLbVOWEL SIGN VOCALIC LeLL:C66aTELUGU DIGIT ZEROcONEcTWOcTHREEcFOUR
cFIVEcSIXcSEVENcEIGHTcNINE:C77aTELUGU SIGN SIDDHAMbFRACTION DIGIT ZERO FOR ODD POWERS OF FOUR
dONE FOR ODD POWERS OF FOURdTWO FOR ODD POWERS OF FOURdTHREE FOR ODD POWERS OF FOUR
dONE FOR EVEN POWERS OF FOURdTWO FOR EVEN POWERS OF FOURdTHREE FOR EVEN POWERS OF FOURbSIGN TUUMU
aKANNADA SIGN SPACING CANDRABINDUcCANDRABINDUcANUSVARAcVISARGAcSIDDHAMbLETTER AcAAcIcIIcUcUU
cVOCALIC RdL:C8EaKANNADA LETTER EcEEcAI:C92aKANNADA LETTER OcOOcAUcKAcKHAcGAcGHAcNGAcCAcCHAcJAcJHA
cNYAcTTAcTTHAcDDAcDDHAcNNAcTAcTHAcDAcDHAcNA:CAAaKANNADA LETTER PAcPHAcBAcBHAcMAcYAcRAcRRAcLAcLLA
:CB5aKANNADA LETTER VAcSHAcSSAcSAcHA:CBCaKANNADA SIGN NUKTAcAVAGRAHAbVOWEL SIGN AAdIdIIdUdUU
dVOCALIC ReRR:CC6aKANNADA VOWEL SIGN EdEEdAI:CCAaKANNADA VOWEL SIGN OdOOdAUbSIGN VIRAMA:CD5
aKANNADA LENGTH MARKbAI LENGTH MARK:CDDaKANNADA LETTER NAKAARA POLLUcFA:CE0
aKANNADA LETTER VOCALIC RRdLLbVOWEL SIGN VOCALIC LeLL:CE6aKANNADA DIGIT ZEROcONEcTWOcTHREEcFOUR
cFIVEcSIXcSEVENcEIGHTcNINE:CF1aKANNADA SIGN JIHVAMULIYAcUPADHMANIYA:D00
aMALAYALAM SIGN COMBINING ANUSVARA ABOVEcCANDRABINDUcANUSVARAcVISARGAbLETTER VEDIC ANUSVARAcAcAAcI
cIIcUcUUcVOCALIC RdL:D0EaMALAYALAM LETTER EcEEcAI:D12aMALAYALAM LETTER OcOOcAUcKAcKHAcGAcGHAcNGA
cCAcCHAcJAcJHAcNYAcTTAcTTHAcDDAcDDHAcNNAcTAcTHAcDAcDHAcNAcNNNAcPAcPHAcBAcBHAcMAcYAcRAcRRAcLAcLLA
cLLLAcVAcSHAcSSAcSAcHAcTTTAbSIGN VERTICAL BAR VIRAMAcCIRCULAR VIRAMAcAVAGRAHAbVOWEL SIGN AAdIdIIdU
dUUdVOCALIC ReRR:D46aMALAYALAM VOWEL SIGN EdEEdAI:D4AaMALAYALAM VOWEL SIGN OdOOdAUbSIGN VIRAMA
bLETTER DOT REPHbSIGN PARA:D54aMALAYALAM LETTER CHILLU MdYdLLLbAU LENGTH MARK
bFRACTION ONE ONE-HUNDRED-AND-SIXTIETHdFORTIETHcTHREE EIGHTIETHScONE TWENTIETHdTENTH
cTHREE TWENTIETHScONE FIFTHbLETTER ARCHAIC IIcVOCALIC RRdLLbVOWEL SIGN VOCALIC LeLL:D66
aMALAYALAM DIGIT ZEROcONEcTWOcTHREEcFOURcFIVEcSIXcSEVENcEIGHTcNINEbNUMBER TENcONE HUNDREDdTHOUSAND
bFRACTION ONE QUARTERdHALFcTHREE QUARTERScONE SIXTEENTHdEIGHTHcTHREE SIXTEENTHSbDATE MARK
bLETTER CHILLU NNdNdRRdLdLLdK:D81aSINHALA SIGN CANDRABINDUcANUSVARAYAcVISARGAYA:D85
aSINHALA LETTER AYANNAcAAYANNAcAEYANNAcAEEYANNAcIYANNAcIIYANNAcUYANNAcUUYANNAcIRUYANNAcIRUUYANNA
cILUYANNAcILUUYANNAcEYANNAcEEYANNAcAIYANNAcOYANNAcOOYANNAcAUYANNA:D9A
aSINHALA LETTER ALPAPRAANA KAYANNAcMAHAAPRAANA KAYANNAcALPAPRAANA GAYANNAcMAHAAPRAANA GAYANNA
cKANTAJA NAASIKYAYAcSANYAKA GAYANNAcALPAPRAANA CAYANNAcMAHAAPRAANA CAYANNAcALPAPRAANA JAYANNA
cMAHAAPRAANA JAYANNAcTAALUJA NAASIKYAYAdSANYOOGA NAAKSIKYAYAcSANYAKA JAYANNAcALPAPRAANA TTAYANNA
cMAHAAPRAANA TTAYANNAcALPAPRAANA DDAYANNAcMAHAAPRAANA DDAYANNAcMUURDHAJA NAYANNAcSANYAKA DDAYANNA
cALPAPRAANA TAYANNAcMAHAAPRAANA TAYANNAcALPAPRAANA DAYANNAcMAHAAPRAANA DAYANNAcDANTAJA NAYANNA:DB3
aSINHALA LETTER SANYAKA DAYANNAcALPAPRAANA PAYANNAcMAHAAPRAANA PAYANNAcALPAPRAANA BAYANNA
cMAHAAPRAANA BAYANNAcMAYANNAcAMBA BAYANNAcYAYANNAcRAYANNA:DBDaSINHALA LETTER DANTAJA LAYANNA:DC0
aSINHALA LETTER VAYANNAcTAALUJA SAYANNAcMUURDHAJA SAYANNAcDANTAJA SAYANNAcHAYANNA
cMUURDHAJA LAYANNAcFAYANNA:DCAaSINHALA SIGN AL-LAKUNA:DCFaSINHALA VOWEL SIGN AELA-PILLA
dKETTI AEDA-PILLAdDIGA AEDA-PILLAdKETTI IS-PILLAdDIGA IS-PILLAdKETTI PAA-PILLA:DD6
aSINHALA VOWEL SIGN DIGA PAA-PILLA:DD8aSINHALA VOWEL SIGN GAETTA-PILLAdKOMBUVAdDIGA KOMBUVA
dKOMBU DEKAdKOMBUVA HAA AELA-PILLAfDIGA AELA-PILLAfGAYANUKITTAdGAYANUKITTA:DE6
aSINHALA LITH DIGIT ZEROdONEdTWOdTHREEdFOURdFIVEdSIXdSEVENdEIGHTdNINE:DF2
aSINHALA VOWEL SIGN DIGA GAETTA-PILLAeGAYANUKITTAbPUNCTUATION KUNDDALIYA:E01aTHAI CHARACTER KO KAI
cKHO KHAIdKHUATdKHWAIdKHONdRAKHANGcNGO NGUcCHO CHANdCHINGdCHANGcSO SOcCHO CHOEcYO YINGcDO CHADA
cTO PATAKcTHO THANdNANGMONTHOdPHUTHAOcNO NENcDO DEKcTO TAOcTHO THUNGdTHAHANdTHONGcNO NUcBO BAIMAI
cPO PLAcPHO PHUNGcFO FAcPHO PHANcFO FANcPHO SAMPHAOcMO MAcYO YAKcRO RUAcRUcLO LINGcLUcWO WAEN
cSO SALAdRUSIdSUAcHO HIPcLO CHULAcO ANGcHO NOKHUKcPAIYANNOIcSARA AcMAI HAN-AKATcSARA AAdAMdIdIIdUE
dUEEdUdUUcPHINTHU:E3FaTHAI CURRENCY SYMBOL BAHTbCHARACTER SARA EdAEdOdAI MAIMUANeMAIMALAI
cLAKKHANGYAOcMAIYAMOKcMAITAIKHUcMAI EKdTHOdTRIdCHATTAWAcTHANTHAKHATcNIKHAHITcYAMAKKANcFONGMAN
bDIGIT ZEROcONEcTWOcTHREEcFOURcFIVEcSIXcSEVENcEIGHTcNINEbCHARACTER ANGKHANKHUcKHOMUT:E81
aLAO LETTER KOcKHO SUNG:E84aLAO LETTER KHO TAM:E86aLAO LETTER PALI GHAcNGOcCOcPALI CHAcSO TAM:E8C
aLAO LETTER PALI JHAcNYOcPALI NYAdTTAdTTHAdDDAdDDHAdNNAcDOcTOcTHO SUNGdTAMcPALI DHAcNOcBOcPO
cPHO SUNGcFO TAMcPHO TAMcFO SUNGcPALI BHAcMOcYOcLO LING:EA5aLAO LETTER LO LOOT:EA7aLAO LETTER WO
cSANSKRIT SHAdSSAcSO SUNGcHO SUNGcPALI LLAcOcHO TAMbELLIPSISbVOWEL SIGN AdMAI KANdAAdAMdIdIIdYdYY
dUdUUbSIGN PALI VIRAMAbVOWEL SIGN MAI KONbSEMIVOWEL SIGN LOdNYO:EC0aLAO VOWEL SIGN EdEIdOdAYdAI
:EC6aLAO KO LA:EC8aLAO TONE MAI EKdTHOdTIdCATAWAbCANCELLATION MARKbNIGGAHITA:ED0aLAO DIGIT ZERO
cONEcTWOcTHREEcFOURcFIVEcSIXcSEVENcEIGHTcNINE:EDCaLAO HO NOcMObLETTER KHMU GOdNYO:F00
aTIBETAN SYLLABLE OMbMARK GTER YIG MGO TRUNCATED Af-UM RNAM BCAD MAgGTER TSHEG MA
cINITIAL YIG MGO MDUN MAcCLOSING YIG MGO SGAB MAcCARET YIG MGO PHUR SHAD MAcYIG MGO TSHEG SHAD MA
cSBRUL SHADcBSKUR YIG MGOcBKA- SHOG YIG MGOcINTERSYLLABIC TSHEGcDELIMITER TSHEG BSTARcSHAD
cNYIS SHADcTSHEG SHADcNYIS TSHEG SHADcRIN CHEN SPUNGS SHADcRGYA GRAM SHAD
cCARET -DZUD RTAGS ME LONG CANcGTER TSHEGbLOGOTYPE SIGN CHAD RTAGSdLHAG RTAGS
bASTROLOGICAL SIGN SGRA GCAN -CHAR RTAGSd-KHYUD PAdSDONG TSHUGSbSIGN RDEL DKAR GCIGeGNYISeGSUM
dNAG GCIGeGNYISdDKAR RDEL NAGbDIGIT ZEROcONEcTWOcTHREEcFOURcFIVEcSIXcSEVENcEIGHTcNINEcHALF ONEdTWO
dTHREEdFOURdFIVEdSIXdSEVENdEIGHTdNINEdZERObMARK BSDUS RTAGScNGAS BZUNG NYI ZLA
cCARET -DZUD RTAGS BZHI MIG CANcNGAS BZUNG SGOR RTAGScCHE MGOcTSA -PHRUcGUG RTAGS GYONeGYAS
cANG KHANG GYONeGYASbSIGN YAR TSHEScMAR TSHESbLETTER KAcKHAcGAcGHAcNGAcCAcCHAcJA:F49
aTIBETAN LETTER NYAcTTAcTTHAcDDAcDDHAcNNAcTAcTHAcDAcDHAcNAcPAcPHAcBAcBHAcMAcTSAcTSHAcDZAcDZHAcWA
cZHAcZAc-AcYAcRAcLAcSHAcSSAcSAcHAcAcKSSAcFIXED-FORM RAcKKAcRRA:F71aTIBETAN VOWEL SIGN AAdIdIIdUdUU
dVOCALIC ReRReLeLLdEdEEdOdOObSIGN RJES SU NGA ROcRNAM BCADbVOWEL SIGN REVERSED IeII
bSIGN NYI ZLA NAA DAcSNA LDANbMARK HALANTAcPALUTAbSIGN LCI RTAGScYANG RTAGScLCE TSA CANcMCHU CAN
cGRU CAN RGYINGSdMED RGYINGScINVERTED MCHU CANbSUBJOINED SIGN LCE TSA CANdMCHU CAN
dINVERTED MCHU CANcLETTER KAdKHAdGAdGHAdNGAdCAdCHAdJA:F99aTIBETAN SUBJOINED LETTER NYAdTTAdTTHA
dDDAdDDHAdNNAdTAdTHAdDAdDHAdNAdPAdPHAdBAdBHAdMAdTSAdTSHAdDZAdDZHAdWAdZHAdZAd-AdYAdRAdLAdSHAdSSAdSA
dHAdAdKSSAdFIXED-FORM WAeYAeRA:FBEaTIBETAN KU RU KHAeBZHI MIG CANbCANTILLATION SIGN HEAVY BEAT
dLIGHT BEATdCANG TE-UdSBUB -CHALbSYMBOL DRIL BUcRDO RJEcPADMA GDANcRDO RJE RGYA GRAMcPHUR PA
cNOR BUeNYIS -KHYILeGSUM -KHYILeBZHI -KHYIL:FCEaTIBETAN SIGN RDEL NAG RDEL DKAReGSUM
bMARK BSKA- SHOG GI MGO RGYANcMNYAM YIG GI MGO RGYANcNYIS TSHEG
cINITIAL BRDA RNYING YIG MGO MDUN MAcCLOSING BRDA RNYING YIG MGO SGAB MAaRIGHT-FACING SVASTI SIGN
aLEFT-FACING SVASTI SIGNaRIGHT-FACING SVASTI SIGN WITH DOTSaLEFT-FACING SVASTI SIGN WITH DOTS
aTIBETAN MARK LEADING MCHAN RTAGScTRAILING MCHAN RTAGS:1000aMYANMAR LETTER KAcKHAcGAcGHAcNGAcCA
cCHAcJAcJHAcNYAcNNYAcTTAcTTHAcDDAcDDHAcNNAcTAcTHAcDAcDHAcNAcPAcPHAcBAcBHAcMAcYAcRAcLAcWAcSAcHAcLLA
cAcSHAN AcIcIIcUcUUcEcMON EcOcAUbVOWEL SIGN TALL AAdAAdIdIIdUdUUdEdAIdMON IIeOdE ABOVE
bSIGN ANUSVARAcDOT BELOWcVISARGAcVIRAMAcASATbCONSONANT SIGN MEDIAL YAeRAeWAeHAbLETTER GREAT SA
bDIGIT ZEROcONEcTWOcTHREEcFOURcFIVEcSIXcSEVENcEIGHTcNINEbSIGN LITTLE SECTIONcSECTION
bSYMBOL LOCATIVEcCOMPLETEDcAFOREMENTIONEDcGENITIVEbLETTER SHAcSSAcVOCALIC RdRRdLdLL
bVOWEL SIGN VOCALIC ReRReLeLLbLETTER MON NGAdJHAdBBAdBBEbCONSONANT SIGN MON MEDIAL NAfMAfLA
bLETTER SGAW KAREN SHAbVOWEL SIGN SGAW KAREN EUbTONE MARK SGAW KAREN HATHIfKE PHO
bLETTER WESTERN PWO KAREN THAfPWAbVOWEL SIGN WESTERN PWO KAREN EUgUEbSIGN WESTERN PWO KAREN TONE-1
fTONE-2fTONE-3fTONE-4fTONE-5bLETTER EASTERN PWO KAREN NNAfYWAfGHWAbVOWEL SIGN GEBA KAREN I
dKAYAH OEeUeEEbLETTER SHAN KAdKHAdGAdCAdZAdNYAdDAdNAdPHAdFAdBAdTHAdHA
bCONSONANT SIGN SHAN MEDIAL WAbVOWEL SIGN SHAN AAeEfABOVEeFINAL YbSIGN SHAN TONE-2dTONE-3dTONE-5
dTONE-6dCOUNCIL TONE-2eTONE-3eEMPHATIC TONEbLETTER RUMAI PALAUNG FAbSIGN RUMAI PALAUNG TONE-5
bSHAN DIGIT ZEROdONEdTWOdTHREEdFOURdFIVEdSIXdSEVENdEIGHTdNINEbSIGN KHAMTI TONE-1dTONE-3
bVOWEL SIGN AITON AeAIbSYMBOL SHAN ONEdEXCLAMATIONaGEORGIAN CAPITAL LETTER ANdBANdGANdDONdENdVIN
dZENdTANdINdKANdLASdMANdNARdONdPARdZHARdRAEdSANdTARdUNdPHARdKHARdGHANdQARdSHINdCHINdCANdJILdCIL
dCHARdXANdJHANdHAEdHEdHIEdWEdHARdHOE:10C7aGEORGIAN CAPITAL LETTER YN:10CD
aGEORGIAN CAPITAL LETTER AEN:10D0aGEORGIAN LETTER ANcBANcGANcDONcENcVINcZENcTANcINcKANcLAScMANcNAR
cONcPARcZHARcRAEcSANcTARcUNcPHARcKHARcGHANcQARcSHINcCHINcCANcJILcCILcCHARcXANcJHANcHAEcHEcHIEcWE
cHARcHOEcFIcYNcELIFIcTURNED GANcAINbPARAGRAPH SEPARATORaMODIFIER LETTER GEORGIAN NAR
aGEORGIAN LETTER AENcHARD SIGNcLABIAL SIGNaHANGUL CHOSEONG KIYEOKcSSANGKIYEOKcNIEUNcTIKEUT
cSSANGTIKEUTcRIEULcMIEUMcPIEUPcSSANGPIEUPcSIOScSSANGSIOScIEUNGcCIEUCcSSANGCIEUCcCHIEUCHcKHIEUKH
cTHIEUTHcPHIEUPHcHIEUHcNIEUN-KIYEOKcSSANGNIEUNcNIEUN-TIKEUTcNIEUN-PIEUPcTIKEUT-KIYEOKcRIEUL-NIEUN
cSSANGRIEULcRIEUL-HIEUHcKAPYEOUNRIEULcMIEUM-PIEUPcKAPYEOUNMIEUMcPIEUP-KIYEOKcPIEUP-NIEUN
cPIEUP-TIKEUTcPIEUP-SIOScPIEUP-SIOS-KIYEOKcPIEUP-SIOS-TIKEUTcPIEUP-SIOS-PIEUPcPIEUP-SSANGSIOS
cPIEUP-SIOS-CIEUCcPIEUP-CIEUCcPIEUP-CHIEUCHcPIEUP-THIEUTHcPIEUP-PHIEUPHcKAPYEOUNPIEUP
cKAPYEOUNSSANGPIEUPcSIOS-KIYEOKcSIOS-NIEUNcSIOS-TIKEUTcSIOS-RIEULcSIOS-MIEUMcSIOS-PIEUP
cSIOS-PIEUP-KIYEOKcSIOS-SSANGSIOScSIOS-IEUNGcSIOS-CIEUCcSIOS-CHIEUCHcSIOS-KHIEUKHcSIOS-THIEUTH
cSIOS-PHIEUPHcSIOS-HIEUHcCHITUEUMSIOScCHITUEUMSSANGSIOScCEONGCHIEUMSIOScCEONGCHIEUMSSANGSIOS
cPANSIOScIEUNG-KIYEOKcIEUNG-TIKEUTcIEUNG-MIEUMcIEUNG-PIEUPcIEUNG-SIOScIEUNG-PANSIOScSSANGIEUNG
cIEUNG-CIEUCcIEUNG-CHIEUCHcIEUNG-THIEUTHcIEUNG-PHIEUPHcYESIEUNGcCIEUC-IEUNGcCHITUEUMCIEUC
cCHITUEUMSSANGCIEUCcCEONGCHIEUMCIEUCcCEONGCHIEUMSSANGCIEUCcCHIEUCH-KHIEUKHcCHIEUCH-HIEUH
cCHITUEUMCHIEUCHcCEONGCHIEUMCHIEUCHcPHIEUPH-PIEUPcKAPYEOUNPHIEUPHcSSANGHIEUHcYEORINHIEUH
cKIYEOK-TIKEUTcNIEUN-SIOScNIEUN-CIEUCcNIEUN-HIEUHcTIKEUT-RIEULcFILLERbJUNGSEONG FILLERcAcAEcYAcYAE
cEOcEcYEOcYEcOcWAcWAEcOEcYOcUcWEOcWEcWIcYUcEUcYIcIcA-OcA-UcYA-OcYA-YOcEO-OcEO-UcEO-EUcYEO-OcYEO-U
cO-EOcO-EcO-YEcO-OcO-UcYO-YAcYO-YAEcYO-YEOcYO-OcYO-IcU-AcU-AEcU-EO-EUcU-YEcU-UcYU-AcYU-EOcYU-E
cYU-YEOcYU-YEcYU-UcYU-IcEU-UcEU-EUcYI-UcI-AcI-YAcI-OcI-UcI-EUcI-ARAEAcARAEAcARAEA-EOcARAEA-U
cARAEA-IcSSANGARAEAcA-EUcYA-UcYEO-YAcO-YAcO-YAEbJONGSEONG KIYEOKcSSANGKIYEOKcKIYEOK-SIOScNIEUN
cNIEUN-CIEUCcNIEUN-HIEUHcTIKEUTcRIEULcRIEUL-KIYEOKcRIEUL-MIEUMcRIEUL-PIEUPcRIEUL-SIOS
cRIEUL-THIEUTHcRIEUL-PHIEUPHcRIEUL-HIEUHcMIEUMcPIEUPcPIEUP-SIOScSIOScSSANGSIOScIEUNGcCIEUCcCHIEUCH
cKHIEUKHcTHIEUTHcPHIEUPHcHIEUHcKIYEOK-RIEULcKIYEOK-SIOS-KIYEOKcNIEUN-KIYEOKcNIEUN-TIKEUT
cNIEUN-SIOScNIEUN-PANSIOScNIEUN-THIEUTHcTIKEUT-KIYEOKcTIKEUT-RIEULcRIEUL-KIYEOK-SIOScRIEUL-NIEUN
cRIEUL-TIKEUTcRIEUL-TIKEUT-HIEUHcSSANGRIEULcRIEUL-MIEUM-KIYEOKcRIEUL-MIEUM-SIOScRIEUL-PIEUP-SIOS
cRIEUL-PIEUP-HIEUHcRIEUL-KAPYEOUNPIEUPcRIEUL-SSANGSIOScRIEUL-PANSIOScRIEUL-KHIEUKH
cRIEUL-YEORINHIEUHcMIEUM-KIYEOKcMIEUM-RIEULcMIEUM-PIEUPcMIEUM-SIOScMIEUM-SSANGSIOScMIEUM-PANSIOS
cMIEUM-CHIEUCHcMIEUM-HIEUHcKAPYEOUNMIEUMcPIEUP-RIEULcPIEUP-PHIEUPHcPIEUP-HIEUHcKAPYEOUNPIEUP
cSIOS-KIYEOKcSIOS-TIKEUTcSIOS-RIEULcSIOS-PIEUPcPANSIOScIEUNG-KIYEOKcIEUNG-SSANGKIYEOKcSSANGIEUNG
cIEUNG-KHIEUKHcYESIEUNGcYESIEUNG-SIOScYESIEUNG-PANSIOScPHIEUPH-PIEUPcKAPYEOUNPHIEUPHcHIEUH-NIEUN
cHIEUH-RIEULcHIEUH-MIEUMcHIEUH-PIEUPcYEORINHIEUHcKIYEOK-NIEUNcKIYEOK-PIEUPcKIYEOK-CHIEUCH
cKIYEOK-KHIEUKHcKIYEOK-HIEUHcSSANGNIEUNaETHIOPIC SYLLABLE HAcHUcHIcHAAcHEEcHEcHOcHOAcLAcLUcLIcLAA
cLEEcLEcLOcLWAcHHAcHHUcHHIcHHAAcHHEEcHHEcHHOcHHWAcMAcMUcMIcMAAcMEEcMEcMOcMWAcSZAcSZUcSZIcSZAAcSZEE
cSZEcSZOcSZWAcRAcRUcRIcRAAcREEcREcROcRWAcSAcSUcSIcSAAcSEEcSEcSOcSWAcSHAcSHUcSHIcSHAAcSHEEcSHEcSHO
cSHWAcQAcQUcQIcQAAcQEEcQEcQOcQOAcQWA:124AaETHIOPIC SYLLABLE QWIcQWAAcQWEEcQWE:1250
aETHIOPIC SYLLABLE QHAcQHUcQHIcQHAAcQHEEcQHEcQHO:1258aETHIOPIC SYLLABLE QHWA:125A
aETHIOPIC SYLLABLE QHWIcQHWAAcQHWEEcQHWE:1260aETHIOPIC SYLLABLE BAcBUcBIcBAAcBEEcBEcBOcBWAcVAcVU
cVIcVAAcVEEcVEcVOcVWAcTAcTUcTIcTAAcTEEcTEcTOcTWAcCAcCUcCIcCAAcCEEcCEcCOcCWAcXAcXUcXIcXAAcXEEcXEcXO
cXOAcXWA:128AaETHIOPIC SYLLABLE XWIcXWAAcXWEEcXWE:1290aETHIOPIC SYLLABLE NAcNUcNIcNAAcNEEcNEcNO
cNWAcNYAcNYUcNYIcNYAAcNYEEcNYEcNYOcNYWAcGLOTTAL AdUdIdAAdEEdEdOdWAcKAcKUcKIcKAAcKEEcKEcKOcKOAcKWA
:12B2aETHIOPIC SYLLABLE KWIcKWAAcKWEEcKWE:12B8aETHIOPIC SYLLABLE KXAcKXUcKXIcKXAAcKXEEcKXEcKXO
:12C0aETHIOPIC SYLLABLE KXWA:12C2aETHIOPIC SYLLABLE KXWIcKXWAAcKXWEEcKXWE:12C8
aETHIOPIC SYLLABLE WAcWUcWIcWAAcWEEcWEcWOcWOAcPHARYNGEAL AdUdIdAAdEEdEdO:12D8aETHIOPIC SYLLABLE ZA
cZUcZIcZAAcZEEcZEcZOcZWAcZHAcZHUcZHIcZHAAcZHEEcZHEcZHOcZHWAcYAcYUcYIcYAAcYEEcYEcYOcYOAcDAcDUcDI
cDAAcDEEcDEcDOcDWAcDDAcDDUcDDIcDDAAcDDEEcDDEcDDOcDDWAcJAcJUcJIcJAAcJEEcJEcJOcJWAcGAcGUcGIcGAAcGEE
cGEcGOcGOAcGWA:1312aETHIOPIC SYLLABLE GWIcGWAAcGWEEcGWE:1318aETHIOPIC SYLLABLE GGAcGGUcGGIcGGAA
cGGEEcGGEcGGOcGGWAAcTHAcTHUcTHIcTHAAcTHEEcTHEcTHOcTHWAcCHAcCHUcCHIcCHAAcCHEEcCHEcCHOcCHWAcPHAcPHU
cPHIcPHAAcPHEEcPHEcPHOcPHWAcTSAcTSUcTSIcTSAAcTSEEcTSEcTSOcTSWAcTZAcTZUcTZIcTZAAcTZEEcTZEcTZOcTZOA
cFAcFUcFIcFAAcFEEcFEcFOcFWAcPAcPUcPIcPAAcPEEcPEcPOcPWAcRYAcMYAcFYA:135D
aETHIOPIC COMBINING GEMINATION AND VOWEL LENGTH MARKcVOWEL LENGTH MARKcGEMINATION MARK
bSECTION MARKbWORDSPACEbFULL STOPbCOMMAbSEMICOLONbCOLONbPREFACE COLONbQUESTION MARK
bPARAGRAPH SEPARATORbDIGIT ONEcTWOcTHREEcFOURcFIVEcSIXcSEVENcEIGHTcNINEbNUMBER TENcTWENTYcTHIRTY
cFORTYcFIFTYcSIXTYcSEVENTYcEIGHTYcNINETYcHUNDREDcTEN THOUSAND:1380aETHIOPIC SYLLABLE SEBATBEIT MWA
cMWIcMWEEcMWEcSEBATBEIT BWAcBWIcBWEEcBWEcSEBATBEIT FWAcFWIcFWEEcFWEcSEBATBEIT PWAcPWIcPWEEcPWE
bTONAL MARK YIZETdDERETdRIKRIKdSHORT RIKRIKdDIFATdKENATdCHIRETdHIDETdDERET-HIDETdKURT:13A0
aCHEROKEE LETTER AcEcIcOcUcVcGAcKAcGEcGIcGOcGUcGVcHAcHEcHIcHOcHUcHVcLAcLEcLIcLOcLUcLVcMAcMEcMIcMO
cMUcNAcHNAcNAHcNEcNIcNOcNUcNVcQUAcQUEcQUIcQUOcQUUcQUVcSAcScSEcSIcSOcSUcSVcDAcTAcDEcTEcDIcTIcDOcDU
cDVcDLAcTLAcTLEcTLIcTLOcTLUcTLVcTSAcTSEcTSIcTSOcTSUcTSVcWAcWEcWIcWOcWUcWVcYAcYEcYIcYOcYUcYVcMV
:13F8aCHEROKEE SMALL LETTER YEdYIdYOdYUdYVdMV:1400aCANADIAN SYLLABICS HYPHENcEcAAIcIcIIcOcOO
cY-CREE OOcCARRIER EEdIcAcAAcWEcWEST-CREE WEcWIcWEST-CREE WIcWIIcWEST-CREE WIIcWOcWEST-CREE WOcWOO
cWEST-CREE WOOcNASKAPI WOOcWAcWEST-CREE WAcWAAcWEST-CREE WAAcNASKAPI WAAcAIcY-CREE WcGLOTTAL STOP
cFINAL ACUTEdGRAVEdBOTTOM HALF RINGdTOP HALF RINGdRIGHT HALF RINGdRINGdDOUBLE ACUTE
eSHORT VERTICAL STROKESdMIDDLE DOTdSHORT HORIZONTAL STROKEdPLUSdDOWN TACKcENcINcONcANcPEcPAAIcPI
cPIIcPOcPOOcY-CREE POOcCARRIER HEEdHIcPAcPAAcPWEcWEST-CREE PWEcPWIcWEST-CREE PWIcPWII
cWEST-CREE PWIIcPWOcWEST-CREE PWOcPWOOcWEST-CREE PWOOcPWAcWEST-CREE PWAcPWAAcWEST-CREE PWAA
cY-CREE PWAAcPcWEST-CREE PcCARRIER HcTEcTAAIcTIcTIIcTOcTOOcY-CREE TOOcCARRIER DEEdDIcTAcTAAcTWE
cWEST-CREE TWEcTWIcWEST-CREE TWIcTWIIcWEST-CREE TWIIcTWOcWEST-CREE TWOcTWOOcWEST-CREE TWOOcTWA
cWEST-CREE TWAcTWAAcWEST-CREE TWAAcNASKAPI TWAAcTcTTEcTTIcTTOcTTAcKEcKAAIcKIcKIIcKOcKOOcY-CREE KOO
cKAcKAAcKWEcWEST-CREE KWEcKWIcWEST-CREE KWIcKWIIcWEST-CREE KWIIcKWOcWEST-CREE KWOcKWOO
cWEST-CREE KWOOcKWAcWEST-CREE KWAcKWAAcWEST-CREE KWAAcNASKAPI KWAAcKcKWcSOUTH-SLAVEY KEHdKIHdKOH
dKAHcCEcCAAIcCIcCIIcCOcCOOcY-CREE COOcCAcCAAcCWEcWEST-CREE CWEcCWIcWEST-CREE CWIcCWII
cWEST-CREE CWIIcCWOcWEST-CREE CWOcCWOOcWEST-CREE CWOOcCWAcWEST-CREE CWAcCWAAcWEST-CREE CWAA
cNASKAPI CWAAcCcSAYISI THcMEcMAAIcMIcMIIcMOcMOOcY-CREE MOOcMAcMAAcMWEcWEST-CREE MWEcMWI
cWEST-CREE MWIcMWIIcWEST-CREE MWIIcMWOcWEST-CREE MWOcMWOOcWEST-CREE MWOOcMWAcWEST-CREE MWAcMWAA
cWEST-CREE MWAAcNASKAPI MWAAcMcWEST-CREE McMHcATHAPASCAN McSAYISI McNEcNAAIcNIcNIIcNOcNOO
cY-CREE NOOcNAcNAAcNWEcWEST-CREE NWEcNWAcWEST-CREE NWAcNWAAcWEST-CREE NWAAcNASKAPI NWAAcN
cCARRIER NGcNHcLEcLAAIcLIcLIIcLOcLOOcY-CREE LOOcLAcLAAcLWEcWEST-CREE LWEcLWIcWEST-CREE LWIcLWII
cWEST-CREE LWIIcLWOcWEST-CREE LWOcLWOOcWEST-CREE LWOOcLWAcWEST-CREE LWAcLWAAcWEST-CREE LWAAcL
cWEST-CREE LcMEDIAL LcSEcSAAIcSIcSIIcSOcSOOcY-CREE SOOcSAcSAAcSWEcWEST-CREE SWEcSWIcWEST-CREE SWI
cSWIIcWEST-CREE SWIIcSWOcWEST-CREE SWOcSWOOcWEST-CREE SWOOcSWAcWEST-CREE SWAcSWAAcWEST-CREE SWAA
cNASKAPI SWAAcScATHAPASCAN ScSWcBLACKFOOT ScMOOSE-CREE SKcNASKAPI SKWdS-WdSPWAdSTWAdSKWAdSCWAcSHE
cSHIcSHIIcSHOcSHOOcSHAcSHAAcSHWEcWEST-CREE SHWEcSHWIcWEST-CREE SHWIcSHWIIcWEST-CREE SHWIIcSHWO
cWEST-CREE SHWOcSHWOOcWEST-CREE SHWOOcSHWAcWEST-CREE SHWAcSHWAAcWEST-CREE SHWAAcSHcYEcYAAIcYIcYII
cYOcYOOcY-CREE YOOcYAcYAAcYWEcWEST-CREE YWEcYWIcWEST-CREE YWIcYWIIcWEST-CREE YWIIcYWO
cWEST-CREE YWOcYWOOcWEST-CREE YWOOcYWAcWEST-CREE YWAcYWAAcWEST-CREE YWAAcNASKAPI YWAAcY
cBIBLE-CREE YcWEST-CREE YcSAYISI YIcREcR-CREE REcWEST-CREE LEcRAAIcRIcRIIcROcROOcWEST-CREE LOcRA
cRAAcWEST-CREE LAcRWAAcWEST-CREE RWAAcRcWEST-CREE RcMEDIAL RcFEcFAAIcFIcFIIcFOcFOOcFAcFAAcFWAA
cWEST-CREE FWAAcFcTHEcN-CREE THEcTHIcN-CREE THIcTHIIcN-CREE THIIcTHOcTHOOcTHAcTHAAcTHWAA
cWEST-CREE THWAAcTHcTTHEcTTHIcTTHOcTTHAcTTHcTYEcTYIcTYOcTYAcNUNAVIK HEdHIdHIIdHOdHOOdHAdHAAdH
cNUNAVUT HcHKcQAAIcQIcQIIcQOcQOOcQAcQAAcQcTLHEcTLHIcTLHOcTLHAcWEST-CREE REdRIdROdRAcNGAAIcNGIcNGII
cNGOcNGOOcNGAcNGAAcNGcNNGcSAYISI SHEdSHIdSHOdSHAcWOODS-CREE THEdTHIdTHOdTHAdTHcLHIcLHIIcLHOcLHOO
cLHAcLHAAcLHcTH-CREE THEdTHIdTHIIdTHOdTHOOdTHAdTHAAdTHcAIVILIK BcBLACKFOOT EdIdOdAdWEdWIdWOdWAdNE
dNIdNOdNAdKEdKIdKOdKAcSAYISI HEdHIdHOdHAcCARRIER GHUdGHOdGHEdGHEEdGHIdGHAdRUdROdREdREEdRIdRAdWUdWO
dWEdWEEdWIdWAdHWUdHWOdHWEdHWEEdHWIdHWAdTHUdTHOdTHEdTHEEdTHIdTHAdTTUdTTOdTTEdTTEEdTTIdTTAdPUdPOdPE
dPEEdPIdPAdPdGUdGOdGEdGEEdGIdGAdKHUdKHOdKHEdKHEEdKHIdKHAdKKUdKKOdKKEdKKEEdKKIdKKAdKKdNUdNOdNEdNEE
dNIdNAdMUdMOdMEdMEEdMIdMAdYUdYOdYEdYEEdYIdYAdJUcSAYISI JUcCARRIER JOdJEdJEEdJIcSAYISI JI
cCARRIER JAdJJUdJJOdJJEdJJEEdJJIdJJAdLUdLOdLEdLEEdLIdLAdDLUdDLOdDLEdDLEEdDLIdDLAdLHUdLHOdLHEdLHEE
dLHIdLHAdTLHUdTLHOdTLHEdTLHEEdTLHIdTLHAdTLUdTLOdTLEdTLEEdTLIdTLAdZUdZOdZEdZEEdZIdZAdZdINITIAL Z
dDZUdDZOdDZEdDZEEdDZIdDZAdSUdSOdSEdSEEdSIdSAdSHUdSHOdSHEdSHEEdSHIdSHAdSHdTSUdTSOdTSEdTSEEdTSIdTSA
dCHUdCHOdCHEdCHEEdCHIdCHAdTTSUdTTSOdTTSEdTTSEEdTTSIdTTSAcCHI SIGNcFULL STOPcQAIcNGAIcNNGIcNNGII
cNNGOcNNGOOcNNGAcNNGAAcWOODS-CREE THWEEdTHWIdTHWIIdTHWOdTHWOOdTHWAdTHWAAdFINAL THcBLACKFOOT W
aOGHAM SPACE MARKbLETTER BEITHcLUIScFEARNcSAILcNIONcUATHcDAIRcTINNEcCOLLcCEIRTcMUINcGORTcNGEADAL
cSTRAIFcRUIScAILMcONNcURcEADHADHcIODHADHcEABHADHcORcUILLEANNcIFINcEAMHANCHOLLcPEITHbFEATHER MARK
bREVERSED FEATHER MARK:16A0aRUNIC LETTER FEHU FEOH FE FcVcURUZ UR UcYRcYcWcTHURISAZ THURS THORN
cETHcANSUZ AcOS OcAC AcAESCcLONG-BRANCH-OSS OcSHORT-TWIG-OSS OcOcOEcONcRAIDO RAD REID RcKAUNAcCEN
cKAUN KcGcENGcGEBO GYFU GcGARcWUNJO WYNN WcHAGLAZ HcHAEGL HcLONG-BRANCH-HAGALL H
cSHORT-TWIG-HAGALL HcNAUDIZ NYD NAUD NcSHORT-TWIG-NAUD NcDOTTED-NcISAZ IS ISS IcEcJERAN JcGER
cLONG-BRANCH-AR AEcSHORT-TWIG-AR AcIWAZ EOHcPERTHO PEORTH PcALGIZ EOLHXcSOWILO S
cSIGEL LONG-BRANCH-SOL ScSHORT-TWIG-SOL ScCcZcTIWAZ TIR TYR TcSHORT-TWIG-TYR TcD
cBERKANAN BEORC BJARKAN BcSHORT-TWIG-BJARKAN BcDOTTED-PcOPEN-PcEHWAZ EH EcMANNAZ MAN M
cLONG-BRANCH-MADR McSHORT-TWIG-MADR McLAUKAZ LAGU LOGR LcDOTTED-LcINGWAZcINGcDAGAZ DAEG D
cOTHALAN ETHEL OcEARcIORcCWEORTHcCALCcCEALCcSTANcLONG-BRANCH-YRcSHORT-TWIG-YRcICELANDIC-YRcQcX
bSINGLE PUNCTUATIONbMULTIPLE PUNCTUATIONbCROSS PUNCTUATIONbARLAUG SYMBOLbTVIMADUR SYMBOL
bBELGTHOR SYMBOLbLETTER KcSHcOOcFRANKS CASKET OSeISeEHeACeAESC:1700aTAGALOG LETTER AcIcUcKAcGAcNGA
cTAcDAcNAcPAcBAcMAcYAcRAcLAcWAcSAcHAbVOWEL SIGN IdUbSIGN VIRAMAcPAMUDPOD:171F
aTAGALOG LETTER ARCHAIC RAaHANUNOO LETTER AcIcUcKAcGAcNGAcTAcDAcNAcPAcBAcMAcYAcRAcLAcWAcSAcHA
bVOWEL SIGN IdUbSIGN PAMUDPODaPHILIPPINE SINGLE PUNCTUATIONbDOUBLE PUNCTUATION:1740aBUHID LETTER A
cIcUcKAcGAcNGAcTAcDAcNAcPAcBAcMAcYAcRAcLAcWAcSAcHAbVOWEL SIGN IdU:1760aTAGBANWA LETTER AcIcUcKAcGA
cNGAcTAcDAcNAcPAcBAcMAcYA:176EaTAGBANWA LETTER LAcWAcSA:1772aTAGBANWA VOWEL SIGN IdU:1780
aKHMER LETTER KAcKHAcKOcKHOcNGOcCAcCHAcCOcCHOcNYOcDAcTTHAcDOcTTHOcNNOcTAcTHAcTOcTHOcNOcBAcPHAcPO
cPHOcMOcYOcROcLOcVOcSHAcSSOcSAcHAcLAcQAbINDEPENDENT VOWEL QAQdQAAdQIdQIIdQUdQUKdQUUdQUUVdRYdRYYdLY
dLYYdQEdQAIdQOO TYPE ONEfTWOdQAUbVOWEL INHERENT AQdAAcSIGN AAdIdIIdYdYYdUdUUdUAdOEdYAdIEdEdAEdAI
dOOdAUbSIGN NIKAHITcREAHMUKcYUUKALEAPINTUcMUUSIKATOANcTRIISAPcBANTOCcROBATcTOANDAKHIATcKAKABAT
cAHSDAcSAMYOK SANNYAcVIRIAMcCOENGcBATHAMASATcKHANcBARIYOOSANcCAMNUC PII KUUHcLEK TOOcBEYYAL
cPHNAEK MUANcKOOMUUTbCURRENCY SYMBOL RIELbSIGN AVAKRAHASANYAcATTHACAN:17E0aKHMER DIGIT ZEROcONE
cTWOcTHREEcFOURcFIVEcSIXcSEVENcEIGHTcNINE:17F0aKHMER SYMBOL LEK ATTAK SONeMUOYePIIeBEIeBUONePRAM
ePRAM-MUOYePRAM-PIIePRAM-BEIePRAM-BUON:1800aMONGOLIAN BIRGAbELLIPSISbCOMMAbFULL STOPbCOLON
bFOUR DOTSbTODO SOFT HYPHENbSIBE SYLLABLE BOUNDARY MARKERbMANCHU COMMAcFULL STOPbNIRUGU
bFREE VARIATION SELECTOR ONEeTWOeTHREEbVOWEL SEPARATORbFREE VARIATION SELECTOR FOURbDIGIT ZEROcONE
cTWOcTHREEcFOURcFIVEcSIXcSEVENcEIGHTcNINE:1820aMONGOLIAN LETTER AcEcIcOcUcOEcUEcEEcNAcANGcBAcPAcQA
cGAcMAcLAcSAcSHAcTAcDAcCHAcJAcYAcRAcWAcFAcKAcKHAcTSAcZAcHAAcZRAcLHAcZHIcCHIcTODO LONG VOWEL SIGNdE
dIdOdUdOEdUEdANGdBAdPAdQAdGAdMAdTAdDAdCHAdJAdTSAdYAdWAdKAdGAAdHAAdJIAdNIAdDZAcSIBE EdIdIYdUEdUdANG
dKAdGAdHAdPAdSHAdTAdDAdJAdFAdGAAdHAAdTSAdZAdRAAdCHAdZHAcMANCHU IdKAdRAdFAdZHAcCHA WITH TWO DOTS
:1880aMONGOLIAN LETTER ALI GALI ANUSVARA ONEeVISARGA ONEeDAMARUeUBADAMAeINVERTED UBADAMAeBALUDA
eTHREE BALUDAeAeIeKAeNGAeCAeTTAeTTHAeDDAeNNAeTAeDAePAePHAeSSAeZHAeZAeAHcTODO ALI GALI TAfZHA
cMANCHU ALI GALI GHAfNGAfCAfJHAfTTAfDDHAfTAfDHAfSSAfCYAfZHAfZAcALI GALI HALF UfYA
cMANCHU ALI GALI BHAcALI GALI DAGALGAcMANCHU ALI GALI LHA:18B0aCANADIAN SYLLABICS OYcAYcAAYcWAY
cPOYcPAYcPWOYcTAYcKAYcKWAYcMAYcNOYcNAYcLAYcSOYcSAYcSHOYcSHAYcSHWOYcYOYcYAYcRAYcNWIcOJIBWAY NWI
cNWIIcOJIBWAY NWIIcNWOcOJIBWAY NWOcNWOOcOJIBWAY NWOOcRWEEcRWIcRWIIcRWOcRWOOcRWAcOJIBWAY PdTdKdCdM
dNdSdSHcEASTERN WcWESTERN WcFINAL SMALL RINGdRAISED DOTcR-CREE RWEcWEST-CREE LOOdLAAcTHWEcTHWA
cTTHWEcTTHOOcTTHAAcTLHWEcTLHOOcSAYISI SHWEdSHOOdHOOcCARRIER GWUdDENE GEEdGAAdGWAcSAYISI JUU
cCARRIER JWAcBEAVER DENE LeRcCARRIER DENTAL S:1900aLIMBU VOWEL-CARRIER LETTERbLETTER KAcKHAcGAcGHA
cNGAcCAcCHAcJAcJHAcYANcTAcTHAcDAcDHAcNAcPAcPHAcBAcBHAcMAcYAcRAcLAcWAcSHAcSSAcSAcHAcGYANcTRA:1920
aLIMBU VOWEL SIGN AdIdUdEEdAIdOOdAUdEdObSUBJOINED LETTER YAdRAdWA:1930aLIMBU SMALL LETTER KAdNGA
dANUSVARAdTAdNAdPAdMAdRAdLAbSIGN MUKPHRENGcKEMPHRENGcSA-I:1940aLIMBU SIGN LOO:1944
aLIMBU EXCLAMATION MARKbQUESTION MARKbDIGIT ZEROcONEcTWOcTHREEcFOURcFIVEcSIXcSEVENcEIGHTcNINE
aTAI LE LETTER KAdXAdNGAdTSAdSAdYAdTAdTHAdLAdPAdPHAdMAdFAdVAdHAdQAdKHAdTSHAdNAdAdIdEEdEHdUdOOdOdUE
dEdAUEdAI:1970aTAI LE LETTER TONE-2dTONE-3dTONE-4dTONE-5dTONE-6:1980aNEW TAI LUE LETTER HIGH QA
eLOW QAeHIGH KAfXAfNGAeLOW KAfXAfNGAeHIGH TSAfSAfYAeLOW TSAfSAfYAeHIGH TAfTHAfNAeLOW TAfTHAfNA
eHIGH PAfPHAfMAeLOW PAfPHAfMAeHIGH FAfVAfLAeLOW FAfVAfLAeHIGH HAfDAfBAeLOW HAfDAfBAeHIGH KVAfXVA
eLOW KVAfXVAeHIGH SUAeLOW SUA:19B0aNEW TAI LUE VOWEL SIGN VOWEL SHORTENERfAAfIIfUfUUfEfAEfOfOAfUE
fAYfAAYfUYfOYfOAYfUEYfIYdLETTER FINAL VfNGfNfMfKfDfBdTONE MARK-1eMARK-2:19D0
aNEW TAI LUE DIGIT ZEROeONEeTWOeTHREEeFOUReFIVEeSIXeSEVENeEIGHTeNINEdTHAM DIGIT ONE:19DE
aNEW TAI LUE SIGN LAEeLAEVaKHMER SYMBOL PATHAMASATcMUOY KOETcPII KOETcBEI KOETcBUON KOETcPRAM KOET
cPRAM-MUOY KOETcPRAM-PII KOETcPRAM-BEI KOETcPRAM-BUON KOETcDAP KOETcDAP-MUOY KOETcDAP-PII KOET
cDAP-BEI KOETcDAP-BUON KOETcDAP-PRAM KOETcTUTEYASATcMUOY ROCcPII ROCcBEI ROCcBUON ROCcPRAM ROC
cPRAM-MUOY ROCcPRAM-PII ROCcPRAM-BEI ROCcPRAM-BUON ROCcDAP ROCcDAP-MUOY ROCcDAP-PII ROC
cDAP-BEI ROCcDAP-BUON ROCcDAP-PRAM ROCaBUGINESE LETTER KAcGAcNGAcNGKAcPAcBAcMAcMPAcTAcDAcNAcNRAcCA
cJAcNYAcNYCAcYAcRAcLAcVAcSAcAcHAbVOWEL SIGN IdUdEdOdAE:1A1EaBUGINESE PALLAWAbEND OF SECTION
aTAI THAM LETTER HIGH KAeKHAeKXAdLOW KAeKXAeKHAdNGAdHIGH CAeCHAdLOW CAeSAeCHAdNYAdRATAdHIGH RATHA
dDAdLOW RATHAdRANAdHIGH TAeTHAdLOW TAeTHAdNAdBAdHIGH PAePHAeFAdLOW PAeFAePHAdMAdLOW YAdHIGH YAdRA
dRUEdLAdLUEdWAdHIGH SHAeSSAeSAeHAdLLAdAdLOW HAdIdIIdUdUUdEEdOOdLAEdGREAT SA
cCONSONANT SIGN MEDIAL RAfLAeLA TANG LAIcSIGN MAI KANG LAIcCONSONANT SIGN FINAL NGAeLOW PA
eHIGH RATHA OR LOW PAeMAeBAeSA:1A60aTAI THAM SIGN SAKOTcVOWEL SIGN AeMAI SATeAAeTALL AAeIeIIeUE
eUUEeUeUUeOeOA BELOWeOYeEeAEeOOeAIeTHAM AIeOA ABOVEcSIGN MAI KANGdTONE-1dTONE-2dKHUEN TONE-3
eTONE-4eTONE-5dRA HAAMdMAI SAMdKHUEN-LUE KARAN:1A7FaTAI THAM COMBINING CRYPTOGRAMMIC DOT
cHORA DIGIT ZEROeONEeTWOeTHREEeFOUReFIVEeSIXeSEVENeEIGHTeNINE:1A90aTAI THAM THAM DIGIT ZEROeONE
eTWOeTHREEeFOUReFIVEeSIXeSEVENeEIGHTeNINE:1AA0aTAI THAM SIGN WIANGdWIANGWAAKdSAWANdKEOWdHOYdDOKMAI
dREVERSED ROTATED RANAdMAI YAMOKdKAANdKAANKUUdSATKAANdSATKAANKUUdHANGdCAANG:1AB0
aCOMBINING DOUBLED CIRCUMFLEX ACCENTbDIAERESIS-RINGbINFINITYbDOWNWARDS ARROWbTRIPLE DOTbX-X BELOW
bWIGGLY LINE BELOWbOPEN MARK BELOWbDOUBLE OPEN MARK BELOWbLIGHT CENTRALIZATION STROKE BELOW
bSTRONG CENTRALIZATION STROKE BELOWbPARENTHESES ABOVEbDOUBLE PARENTHESES ABOVEbPARENTHESES BELOW
cOVERLAYbLATIN SMALL LETTER W BELOWeTURNED W BELOWbLEFT PARENTHESIS ABOVE LEFT
bRIGHT PARENTHESIS ABOVE RIGHTbLEFT PARENTHESIS BELOW LEFTbRIGHT PARENTHESIS BELOW RIGHT
bSQUARE BRACKETS ABOVEbNUMBER SIGN ABOVEbINVERTED DOUBLE ARCH ABOVEbPLUS SIGN ABOVE
bDOUBLE PLUS SIGN ABOVEeBELOWbTRIPLE ACUTE ACCENTbLATIN SMALL LETTER INSULAR GfRfT:1B00
aBALINESE SIGN ULU RICEMdCANDRAcCECEKcSURANGcBISAHbLETTER AKARAdTEDUNGcIKARAdTEDUNGcUKARAdTEDUNG
cRA REPAeTEDUNGcLA LENGAeTEDUNGcEKARAcAIKARAcOKARAdTEDUNGcKAdMAHAPRANAcGAdGORAcNGAcCAdLACAcJAdJERA
cNYAcTA LATIKdMURDA MAHAPRANAcDA MURDA ALPAPRANAeMAHAPRANAcNA RAMBATcTAdTAWAcDAdMADUcNAcPAdKAPAL
cBAdKEMBANGcMAcYAcRAcLAcWAcSA SAGAdSAPAcSAcHAbSIGN REREKANbVOWEL SIGN TEDUNGdULUeSARIdSUKUeILUT
dRA REPAfTEDUNGdLA LENGAfTEDUNGdTALINGeREPAeTEDUNGeREPA TEDUNGdPEPETeTEDUNGbADEG ADEG
bLETTER KAF SASAKcKHOT SASAKcTZIR SASAKcEF SASAKcVE SASAKcZAL SASAKcASYURA SASAKcARCHAIC JNYA:1B50
aBALINESE DIGIT ZEROcONEcTWOcTHREEcFOURcFIVEcSIXcSEVENcEIGHTcNINEbPANTIbPAMADAbWINDU
bCARIK PAMUNGKAHcSIKIcPARERENbPAMENENGbMUSICAL SYMBOL DONGdDENGdDUNGdDANGeSURANGdDINGdDAENGdDEUNG
dDAINGdDANG GEDEdCOMBINING TEGEHeENDEPeKEMPULeKEMPLIeJEGOGANeKEMPUL WITH JEGOGAN
eKEMPLI WITH JEGOGANeBENDEeGONGdRIGHT-HAND OPEN DUGfDAGeCLOSED TUKfTAKdLEFT-HAND OPEN PANGfPUNG
eCLOSED PLAKfPLUKeOPEN PINGbPANTI LANTANGbPAMADA LANTANG:1B80aSUNDANESE SIGN PANYECEKcPANGLAYAR
cPANGWISADbLETTER AcIcUcAEcOcEcEUcKAcQAcGAcNGAcCAcJAcZAcNYAcTAcDAcNAcPAcFAcVAcBAcMAcYAcRAcLAcWAcSA
cXAcHAbCONSONANT SIGN PAMINGKALdPANYAKRAdPANYIKUbVOWEL SIGN PANGHULUdPANYUKUdPANAELAENGdPANOLONG
dPAMEPETdPANEULEUNGbSIGN PAMAAEHcVIRAMAbCONSONANT SIGN PASANGAN MAeWAbLETTER KHAcSYAbDIGIT ZERO
cONEcTWOcTHREEcFOURcFIVEcSIXcSEVENcEIGHTcNINEbAVAGRAHAbLETTER REUcLEUcBHAcFINAL KdMaBATAK LETTER A
cSIMALUNGUN AcHAcSIMALUNGUN HAcMANDAILING HAcBAcKARO BAcPAcSIMALUNGUN PAcNAcMANDAILING NAcWA
cSIMALUNGUN WAcPAKPAK WAcGAcSIMALUNGUN GAcJAcDAcRAcSIMALUNGUN RAcMAcSIMALUNGUN MAcSOUTHERN TA
cNORTHERN TAcSAcSIMALUNGUN SAcMANDAILING SAcYAcSIMALUNGUN YAcNGAcLAcSIMALUNGUN LAcNYAcCAcNDAcMBAcI
cUbSIGN TOMPIbVOWEL SIGN EdPAKPAK EdEEdIdKARO IdOdKARO OdUeFOR SIMALUNGUN SAbCONSONANT SIGN NGdH
bPANGOLATbPANONGONAN:1BFCaBATAK SYMBOL BINDU NA METEKdPINARBORASdJUDULdPANGOLATaLEPCHA LETTER KA
cKLAcKHAcGAcGLAcNGAcCAcCHAcJAcNYAcTAcTHAcDAcNAcPAcPLAcPHAcFAcFLAcBAcBLAcMAcMLAcTSAcTSHAcDZAcYAcRA
cLAcHAcHLAcVAcSAcSHAcWAcAbSUBJOINED LETTER YAdRAbVOWEL SIGN AAdIdOdOOdUdUUdEbCONSONANT SIGN KdMdL
dNdPdRdTdNYIN-DOdKANGbSIGN RANcNUKTA:1C3BaLEPCHA PUNCTUATION TA-ROLcNYET THYOOM TA-ROLcCER-WA
cTSHOOK CER-WAcTSHOOKbDIGIT ZEROcONEcTWOcTHREEcFOURcFIVEcSIXcSEVENcEIGHTcNINE:1C4D
aLEPCHA LETTER TTAcTTHAcDDAaOL CHIKI DIGIT ZEROdONEdTWOdTHREEdFOURdFIVEdSIXdSEVENdEIGHTdNINE
cLETTER LAdATdAGdANGdALdLAAdAAKdAAJdAAMdAAWdLIdISdIHdINYdIRdLUdUCdUDdUNNdUYdLEdEPdEDDdENdERRdLO
dOTTdOBdOVdOHcMU TTUDDAGcGAAHLAA TTUDDAAGcMU-GAAHLAA TTUDDAAGcRELAAcPHAARKAAcAHAD
cPUNCTUATION MUCAADdDOUBLE MUCAADaCYRILLIC SMALL LETTER ROUNDED VEdLONG-LEGGED DEdNARROW OdWIDE ES
dTALL TEdTHREE-LEGGED TEdTALL HARD SIGNeYATdUNBLENDED UK:1C90aGEORGIAN MTAVRULI CAPITAL LETTER AN
eBANeGANeDONeENeVINeZENeTANeINeKANeLASeMANeNAReONePAReZHAReRAEeSANeTAReUNePHAReKHAReGHANeQAReSHIN
eCHINeCANeJILeCILeCHAReXANeJHANeHAEeHEeHIEeWEeHAReHOEeFIeYNeELIFIeTURNED GANeAIN:1CBD
aGEORGIAN MTAVRULI CAPITAL LETTER AENeHARD SIGNeLABIAL SIGNaSUNDANESE PUNCTUATION BINDU SURYA
dPANGLONGdPURNAMAdCAKRAdLEU SATANGAdKA SATANGAdDA SATANGAdBA SATANGA:1CD0aVEDIC TONE KARSHANA
cSHARAcPRENKHAbSIGN NIHSHVASAcYAJURVEDIC MIDLINE SVARITA
bTONE YAJURVEDIC AGGRAVATED INDEPENDENT SVARITAdINDEPENDENT SVARITAdKATHAKA INDEPENDENT SVARITA
cCANDRA BELOWcYAJURVEDIC KATHAKA INDEPENDENT SVARITA SCHROEDERcDOUBLE SVARITAcTRIPLE SVARITA
cKATHAKA ANUDATTAcDOT BELOWcTWO DOTS BELOWcTHREE DOTS BELOWcRIGVEDIC KASHMIRI INDEPENDENT SVARITA
cATHARVAVEDIC INDEPENDENT SVARITAbSIGN VISARGA SVARITAdUDATTAcREVERSED VISARGA UDATTA
cVISARGA ANUDATTAcREVERSED VISARGA ANUDATTAcVISARGA UDATTA WITH TAILdANUDATTA WITH TAIL
cANUSVARA ANTARGOMUKHAdBAHIRGOMUKHAdVAMAGOMUKHAeWITH TAILcTIRYAKcHEXIFORM LONG ANUSVARA
cLONG ANUSVARAcRTHANG LONG ANUSVARAcANUSVARA UBHAYATO MUKHAcARDHAVISARGAcROTATED ARDHAVISARGA
bTONE CANDRA ABOVEbSIGN JIHVAMULIYAcUPADHMANIYAcATIKRAMAbTONE RING ABOVEcDOUBLE RING ABOVE
bSIGN DOUBLE ANUSVARA ANTARGOMUKHA:1D00aLATIN LETTER SMALL CAPITAL AeAEbSMALL LETTER TURNED AE
bLETTER SMALL CAPITAL BARRED BeCeDeETHeEbSMALL LETTER TURNED OPEN EeIbLETTER SMALL CAPITAL JeK
eL WITH STROKEeMeREVERSED NeOeOPEN ObSMALL LETTER SIDEWAYS OeOPEN OeO WITH STROKEdTURNED OE
bLETTER SMALL CAPITAL OUbSMALL LETTER TOP HALF OdBOTTOM HALF ObLETTER SMALL CAPITAL PeREVERSED R
eTURNED ReTeUbSMALL LETTER SIDEWAYS UeDIAERESIZED UeTURNED MbLETTER SMALL CAPITAL VeWeZeEZH
cVOICED LARYNGEAL SPIRANTcAINaGREEK LETTER SMALL CAPITAL GAMMAeLAMDAePIeRHOePSI
aCYRILLIC LETTER SMALL CAPITAL ELaMODIFIER LETTER CAPITAL AdAEdBdBARRED BdDdEdREVERSED EdGdHdIdJdK
dLdMdNdREVERSED NdOdOUdPdRdTdUdWcSMALL AdTURNED AdALPHAdTURNED AEdBdDdEdSCHWAdOPEN EdTURNED OPEN E
dGdTURNED IdKdMdENGdOdOPEN OdTOP HALF OdBOTTOM HALF OdPdTdUdSIDEWAYS UdTURNED MdVdAINdBETA
dGREEK GAMMAdDELTAdGREEK PHIdCHIaLATIN SUBSCRIPT SMALL LETTER IeReUeV
aGREEK SUBSCRIPT SMALL LETTER BETAeGAMMAeRHOePHIeCHIaLATIN SMALL LETTER UEdB WITH MIDDLE TILDE
dD WITH MIDDLE TILDEdF WITH MIDDLE TILDEdM WITH MIDDLE TILDEdN WITH MIDDLE TILDE
dP WITH MIDDLE TILDEdR WITH MIDDLE TILDEfFISHHOOK AND MIDDLE TILDEdS WITH MIDDLE TILDE
dT WITH MIDDLE TILDEdZ WITH MIDDLE TILDEdTURNED GaMODIFIER LETTER CYRILLIC EN
aLATIN SMALL LETTER INSULAR GdTH WITH STRIKETHROUGHcCAPITAL LETTER I WITH STROKE
cLETTER IOTA WITH STROKEdP WITH STROKEcCAPITAL LETTER U WITH STROKEcLETTER UPSILON WITH STROKE
dB WITH PALATAL HOOKdD WITH PALATAL HOOKdF WITH PALATAL HOOKdG WITH PALATAL HOOK
dK WITH PALATAL HOOKdL WITH PALATAL HOOKdM WITH PALATAL HOOKdN WITH PALATAL HOOK
dP WITH PALATAL HOOKdR WITH PALATAL HOOKdS WITH PALATAL HOOKdESH WITH PALATAL HOOK
dV WITH PALATAL HOOKdX WITH PALATAL HOOKdZ WITH PALATAL HOOKdA WITH RETROFLEX HOOK
dALPHA WITH RETROFLEX HOOKdD WITH HOOK AND TAILdE WITH RETROFLEX HOOKdOPEN E WITH RETROFLEX HOOK
dREVERSED OPEN E WITH RETROFLEX HOOKdSCHWA WITH RETROFLEX HOOKdI WITH RETROFLEX HOOK
dOPEN O WITH RETROFLEX HOOKdESH WITH RETROFLEX HOOKdU WITH RETROFLEX HOOKdEZH WITH RETROFLEX HOOK
aMODIFIER LETTER SMALL TURNED ALPHAdCeWITH CURLdETHdREVERSED OPEN EdFdDOTLESS J WITH STROKE
dSCRIPT GdTURNED HdI WITH STROKEdIOTAdCAPITAL IfWITH STROKEdJ WITH CROSSED-TAIL
dL WITH RETROFLEX HOOKfPALATAL HOOKdCAPITAL LdM WITH HOOKdTURNED M WITH LONG LEGdN WITH LEFT HOOK
fRETROFLEX HOOKdCAPITAL NdBARRED OdPHIdS WITH HOOKdESHdT WITH PALATAL HOOKdU BARdUPSILONdCAPITAL U
dV WITH HOOKdTURNED VdZeWITH RETROFLEX HOOKfCURLdEZHdTHETAaCOMBINING DOTTED GRAVE ACCENT
cACUTE ACCENTbSNAKE BELOWbSUSPENSION MARKbMACRON-ACUTEbGRAVE-MACRONbMACRON-GRAVEbACUTE-MACRON
bGRAVE-ACUTE-GRAVEbACUTE-GRAVE-ACUTEbLATIN SMALL LETTER R BELOWbBREVE-MACRONbMACRON-BREVE
bDOUBLE CIRCUMFLEX ABOVEbOGONEK ABOVEbZIGZAG BELOWbIS BELOWbUR ABOVEbUS ABOVE
bLATIN SMALL LETTER FLATTENED OPEN A ABOVEeAEeAOeAVeC CEDILLAeINSULAR DeETHeG
cLETTER SMALL CAPITAL GcSMALL LETTER KeLcLETTER SMALL CAPITAL LfMcSMALL LETTER N
cLETTER SMALL CAPITAL NfRcSMALL LETTER R ROTUNDAeSeLONG SeZeALPHAeBeBETAeSCHWAeF
eL WITH DOUBLE MIDDLE TILDEeO WITH LIGHT CENTRALIZATION STROKEePeESH
eU WITH LIGHT CENTRALIZATION STROKEeWeA WITH DIAERESISeO WITH DIAERESISeU WITH DIAERESIS
bUP TACK ABOVEbKAVYKA ABOVE RIGHTdLEFTbDOT ABOVE LEFTbWIDE INVERTED BRIDGE BELOWbDOT BELOW LEFT
bDELETION MARKbDOUBLE INVERTED BREVE BELOWbALMOST EQUAL TO BELOWbLEFT ARROWHEAD ABOVE
bRIGHT ARROWHEAD AND DOWN ARROWHEAD BELOWaLATIN CAPITAL LETTER A WITH RING BELOW
bSMALL LETTER A WITH RING BELOWbCAPITAL LETTER B WITH DOT ABOVEbSMALL LETTER B WITH DOT ABOVE
bCAPITAL LETTER B WITH DOT BELOWbSMALL LETTER B WITH DOT BELOWbCAPITAL LETTER B WITH LINE BELOW
bSMALL LETTER B WITH LINE BELOWbCAPITAL LETTER C WITH CEDILLA AND ACUTE
bSMALL LETTER C WITH CEDILLA AND ACUTEbCAPITAL LETTER D WITH DOT ABOVE
bSMALL LETTER D WITH DOT ABOVEbCAPITAL LETTER D WITH DOT BELOWbSMALL LETTER D WITH DOT BELOW
bCAPITAL LETTER D WITH LINE BELOWbSMALL LETTER D WITH LINE BELOWbCAPITAL LETTER D WITH CEDILLA
bSMALL LETTER D WITH CEDILLAbCAPITAL LETTER D WITH CIRCUMFLEX BELOW
bSMALL LETTER D WITH CIRCUMFLEX BELOWbCAPITAL LETTER E WITH MACRON AND GRAVE
bSMALL LETTER E WITH MACRON AND GRAVEbCAPITAL LETTER E WITH MACRON AND ACUTE
bSMALL LETTER E WITH MACRON AND ACUTEbCAPITAL LETTER E WITH CIRCUMFLEX BELOW
bSMALL LETTER E WITH CIRCUMFLEX BELOWbCAPITAL LETTER E WITH TILDE BELOW
bSMALL LETTER E WITH TILDE BELOWbCAPITAL LETTER E WITH CEDILLA AND BREVE
bSMALL LETTER E WITH CEDILLA AND BREVEbCAPITAL LETTER F WITH DOT ABOVE
bSMALL LETTER F WITH DOT ABOVEbCAPITAL LETTER G WITH MACRONbSMALL LETTER G WITH MACRON
bCAPITAL LETTER H WITH DOT ABOVEbSMALL LETTER H WITH DOT ABOVEbCAPITAL LETTER H WITH DOT BELOW
bSMALL LETTER H WITH DOT BELOWbCAPITAL LETTER H WITH DIAERESISbSMALL LETTER H WITH DIAERESIS
bCAPITAL LETTER H WITH CEDILLAbSMALL LETTER H WITH CEDILLAbCAPITAL LETTER H WITH BREVE BELOW
bSMALL LETTER H WITH BREVE BELOWbCAPITAL LETTER I WITH TILDE BELOWbSMALL LETTER I WITH TILDE BELOW
bCAPITAL LETTER I WITH DIAERESIS AND ACUTEbSMALL LETTER I WITH DIAERESIS AND ACUTE
bCAPITAL LETTER K WITH ACUTEbSMALL LETTER K WITH ACUTEbCAPITAL LETTER K WITH DOT BELOW
bSMALL LETTER K WITH DOT BELOWbCAPITAL LETTER K WITH LINE BELOWbSMALL LETTER K WITH LINE BELOW
bCAPITAL LETTER L WITH DOT BELOWbSMALL LETTER L WITH DOT BELOW
bCAPITAL LETTER L WITH DOT BELOW AND MACRONbSMALL LETTER L WITH DOT BELOW AND MACRON
bCAPITAL LETTER L WITH LINE BELOWbSMALL LETTER L WITH LINE BELOW
bCAPITAL LETTER L WITH CIRCUMFLEX BELOWbSMALL LETTER L WITH CIRCUMFLEX BELOW
bCAPITAL LETTER M WITH ACUTEbSMALL LETTER M WITH ACUTEbCAPITAL LETTER M WITH DOT ABOVE
bSMALL LETTER M WITH DOT ABOVEbCAPITAL LETTER M WITH DOT BELOWbSMALL LETTER M WITH DOT BELOW
bCAPITAL LETTER N WITH DOT ABOVEbSMALL LETTER N WITH DOT ABOVEbCAPITAL LETTER N WITH DOT BELOW
bSMALL LETTER N WITH DOT BELOWbCAPITAL LETTER N WITH LINE BELOWbSMALL LETTER N WITH LINE BELOW
bCAPITAL LETTER N WITH CIRCUMFLEX BELOWbSMALL LETTER N WITH CIRCUMFLEX BELOW
bCAPITAL LETTER O WITH TILDE AND ACUTEbSMALL LETTER O WITH TILDE AND ACUTE
bCAPITAL LETTER O WITH TILDE AND DIAERESISbSMALL LETTER O WITH TILDE AND DIAERESIS
bCAPITAL LETTER O WITH MACRON AND GRAVEbSMALL LETTER O WITH MACRON AND GRAVE
bCAPITAL LETTER O WITH MACRON AND ACUTEbSMALL LETTER O WITH MACRON AND ACUTE
bCAPITAL LETTER P WITH ACUTEbSMALL LETTER P WITH ACUTEbCAPITAL LETTER P WITH DOT ABOVE
bSMALL LETTER P WITH DOT ABOVEbCAPITAL LETTER R WITH DOT ABOVEbSMALL LETTER R WITH DOT ABOVE
bCAPITAL LETTER R WITH DOT BELOWbSMALL LETTER R WITH DOT BELOW
bCAPITAL LETTER R WITH DOT BELOW AND MACRONbSMALL LETTER R WITH DOT BELOW AND MACRON
bCAPITAL LETTER R WITH LINE BELOWbSMALL LETTER R WITH LINE BELOWbCAPITAL LETTER S WITH DOT ABOVE
bSMALL LETTER S WITH DOT ABOVEbCAPITAL LETTER S WITH DOT BELOWbSMALL LETTER S WITH DOT BELOW
bCAPITAL LETTER S WITH ACUTE AND DOT ABOVEbSMALL LETTER S WITH ACUTE AND DOT ABOVE
bCAPITAL LETTER S WITH CARON AND DOT ABOVEbSMALL LETTER S WITH CARON AND DOT ABOVE
bCAPITAL LETTER S WITH DOT BELOW AND DOT ABOVEbSMALL LETTER S WITH DOT BELOW AND DOT ABOVE
bCAPITAL LETTER T WITH DOT ABOVEbSMALL LETTER T WITH DOT ABOVEbCAPITAL LETTER T WITH DOT BELOW
bSMALL LETTER T WITH DOT BELOWbCAPITAL LETTER T WITH LINE BELOWbSMALL LETTER T WITH LINE BELOW
bCAPITAL LETTER T WITH CIRCUMFLEX BELOWbSMALL LETTER T WITH CIRCUMFLEX BELOW
bCAPITAL LETTER U WITH DIAERESIS BELOWbSMALL LETTER U WITH DIAERESIS BELOW
bCAPITAL LETTER U WITH TILDE BELOWbSMALL LETTER U WITH TILDE BELOW
bCAPITAL LETTER U WITH CIRCUMFLEX BELOWbSMALL LETTER U WITH CIRCUMFLEX BELOW
bCAPITAL LETTER U WITH TILDE AND ACUTEbSMALL LETTER U WITH TILDE AND ACUTE
bCAPITAL LETTER U WITH MACRON AND DIAERESISbSMALL LETTER U WITH MACRON AND DIAERESIS
bCAPITAL LETTER V WITH TILDEbSMALL LETTER V WITH TILDEbCAPITAL LETTER V WITH DOT BELOW
bSMALL LETTER V WITH DOT BELOWbCAPITAL LETTER W WITH GRAVEbSMALL LETTER W WITH GRAVE
bCAPITAL LETTER W WITH ACUTEbSMALL LETTER W WITH ACUTEbCAPITAL LETTER W WITH DIAERESIS
bSMALL LETTER W WITH DIAERESISbCAPITAL LETTER W WITH DOT ABOVEbSMALL LETTER W WITH DOT ABOVE
bCAPITAL LETTER W WITH DOT BELOWbSMALL LETTER W WITH DOT BELOWbCAPITAL LETTER X WITH DOT ABOVE
bSMALL LETTER X WITH DOT ABOVEbCAPITAL LETTER X WITH DIAERESISbSMALL LETTER X WITH DIAERESIS
bCAPITAL LETTER Y WITH DOT ABOVEbSMALL LETTER Y WITH DOT ABOVEbCAPITAL LETTER Z WITH CIRCUMFLEX
bSMALL LETTER Z WITH CIRCUMFLEXbCAPITAL LETTER Z WITH DOT BELOWbSMALL LETTER Z WITH DOT BELOW
bCAPITAL LETTER Z WITH LINE BELOWbSMALL LETTER Z WITH LINE BELOWdH WITH LINE BELOW
dT WITH DIAERESISdW WITH RING ABOVEdY WITH RING ABOVEdA WITH RIGHT HALF RINGdLONG S WITH DOT ABOVE
gDIAGONAL STROKEgHIGH STROKEbCAPITAL LETTER SHARP SbSMALL LETTER DELTA
bCAPITAL LETTER A WITH DOT BELOWbSMALL LETTER A WITH DOT BELOWbCAPITAL LETTER A WITH HOOK ABOVE
bSMALL LETTER A WITH HOOK ABOVEbCAPITAL LETTER A WITH CIRCUMFLEX AND ACUTE
bSMALL LETTER A WITH CIRCUMFLEX AND ACUTEbCAPITAL LETTER A WITH CIRCUMFLEX AND GRAVE
bSMALL LETTER A WITH CIRCUMFLEX AND GRAVEbCAPITAL LETTER A WITH CIRCUMFLEX AND HOOK ABOVE
bSMALL LETTER A WITH CIRCUMFLEX AND HOOK ABOVEbCAPITAL LETTER A WITH CIRCUMFLEX AND TILDE
bSMALL LETTER A WITH CIRCUMFLEX AND TILDEbCAPITAL LETTER A WITH CIRCUMFLEX AND DOT BELOW
bSMALL LETTER A WITH CIRCUMFLEX AND DOT BELOWbCAPITAL LETTER A WITH BREVE AND ACUTE
bSMALL LETTER A WITH BREVE AND ACUTEbCAPITAL LETTER A WITH BREVE AND GRAVE
bSMALL LETTER A WITH BREVE AND GRAVEbCAPITAL LETTER A WITH BREVE AND HOOK ABOVE
bSMALL LETTER A WITH BREVE AND HOOK ABOVEbCAPITAL LETTER A WITH BREVE AND TILDE
bSMALL LETTER A WITH BREVE AND TILDEbCAPITAL LETTER A WITH BREVE AND DOT BELOW
bSMALL LETTER A WITH BREVE AND DOT BELOWbCAPITAL LETTER E WITH DOT BELOW
bSMALL LETTER E WITH DOT BELOWbCAPITAL LETTER E WITH HOOK ABOVEbSMALL LETTER E WITH HOOK ABOVE
bCAPITAL LETTER E WITH TILDEbSMALL LETTER E WITH TILDEbCAPITAL LETTER E WITH CIRCUMFLEX AND ACUTE
bSMALL LETTER E WITH CIRCUMFLEX AND ACUTEbCAPITAL LETTER E WITH CIRCUMFLEX AND GRAVE
bSMALL LETTER E WITH CIRCUMFLEX AND GRAVEbCAPITAL LETTER E WITH CIRCUMFLEX AND HOOK ABOVE
bSMALL LETTER E WITH CIRCUMFLEX AND HOOK ABOVEbCAPITAL LETTER E WITH CIRCUMFLEX AND TILDE
bSMALL LETTER E WITH CIRCUMFLEX AND TILDEbCAPITAL LETTER E WITH CIRCUMFLEX AND DOT BELOW
bSMALL LETTER E WITH CIRCUMFLEX AND DOT BELOWbCAPITAL LETTER I WITH HOOK ABOVE
bSMALL LETTER I WITH HOOK ABOVEbCAPITAL LETTER I WITH DOT BELOWbSMALL LETTER I WITH DOT BELOW
bCAPITAL LETTER O WITH DOT BELOWbSMALL LETTER O WITH DOT BELOWbCAPITAL LETTER O WITH HOOK ABOVE
bSMALL LETTER O WITH HOOK ABOVEbCAPITAL LETTER O WITH CIRCUMFLEX AND ACUTE
bSMALL LETTER O WITH CIRCUMFLEX AND ACUTEbCAPITAL LETTER O WITH CIRCUMFLEX AND GRAVE
bSMALL LETTER O WITH CIRCUMFLEX AND GRAVEbCAPITAL LETTER O WITH CIRCUMFLEX AND HOOK ABOVE
bSMALL LETTER O WITH CIRCUMFLEX AND HOOK ABOVEbCAPITAL LETTER O WITH CIRCUMFLEX AND TILDE
bSMALL LETTER O WITH CIRCUMFLEX AND TILDEbCAPITAL LETTER O WITH CIRCUMFLEX AND DOT BELOW
bSMALL LETTER O WITH CIRCUMFLEX AND DOT BELOWbCAPITAL LETTER O WITH HORN AND ACUTE
bSMALL LETTER O WITH HORN AND ACUTEbCAPITAL LETTER O WITH HORN AND GRAVE
bSMALL LETTER O WITH HORN AND GRAVEbCAPITAL LETTER O WITH HORN AND HOOK ABOVE
bSMALL LETTER O WITH HORN AND HOOK ABOVEbCAPITAL LETTER O WITH HORN AND TILDE
bSMALL LETTER O WITH HORN AND TILDEbCAPITAL LETTER O WITH HORN AND DOT BELOW
bSMALL LETTER O WITH HORN AND DOT BELOWbCAPITAL LETTER U WITH DOT BELOW
bSMALL LETTER U WITH DOT BELOWbCAPITAL LETTER U WITH HOOK ABOVEbSMALL LETTER U WITH HOOK ABOVE
bCAPITAL LETTER U WITH HORN AND ACUTEbSMALL LETTER U WITH HORN AND ACUTE
bCAPITAL LETTER U WITH HORN AND GRAVEbSMALL LETTER U WITH HORN AND GRAVE
bCAPITAL LETTER U WITH HORN AND HOOK ABOVEbSMALL LETTER U WITH HORN AND HOOK ABOVE
bCAPITAL LETTER U WITH HORN AND TILDEbSMALL LETTER U WITH HORN AND TILDE
bCAPITAL LETTER U WITH HORN AND DOT BELOWbSMALL LETTER U WITH HORN AND DOT BELOW
bCAPITAL LETTER Y WITH GRAVEbSMALL LETTER Y WITH GRAVEbCAPITAL LETTER Y WITH DOT BELOW
bSMALL LETTER Y WITH DOT BELOWbCAPITAL LETTER Y WITH HOOK ABOVEbSMALL LETTER Y WITH HOOK ABOVE
bCAPITAL LETTER Y WITH TILDEbSMALL LETTER Y WITH TILDEbCAPITAL LETTER MIDDLE-WELSH LL
bSMALL LETTER MIDDLE-WELSH LLbCAPITAL LETTER MIDDLE-WELSH VbSMALL LETTER MIDDLE-WELSH V
bCAPITAL LETTER Y WITH LOOPbSMALL LETTER Y WITH LOOPaGREEK SMALL LETTER ALPHA WITH PSILIfDASIA
fPSILI AND VARIAfDASIA AND VARIAfPSILI AND OXIAfDASIA AND OXIAfPSILI AND PERISPOMENI
fDASIA AND PERISPOMENIbCAPITAL LETTER ALPHA WITH PSILIfDASIAfPSILI AND VARIAfDASIA AND VARIA
fPSILI AND OXIAfDASIA AND OXIAfPSILI AND PERISPOMENIfDASIA AND PERISPOMENI
bSMALL LETTER EPSILON WITH PSILIfDASIAfPSILI AND VARIAfDASIA AND VARIAfPSILI AND OXIA
fDASIA AND OXIA:1F18aGREEK CAPITAL LETTER EPSILON WITH PSILIfDASIAfPSILI AND VARIAfDASIA AND VARIA
fPSILI AND OXIAfDASIA AND OXIA:1F20aGREEK SMALL LETTER ETA WITH PSILIfDASIAfPSILI AND VARIA
fDASIA AND VARIAfPSILI AND OXIAfDASIA AND OXIAfPSILI AND PERISPOMENIfDASIA AND PERISPOMENI
bCAPITAL LETTER ETA WITH PSILIfDASIAfPSILI AND VARIAfDASIA AND VARIAfPSILI AND OXIAfDASIA AND OXIA
fPSILI AND PERISPOMENIfDASIA AND PERISPOMENIbSMALL LETTER IOTA WITH PSILIfDASIAfPSILI AND VARIA
fDASIA AND VARIAfPSILI AND OXIAfDASIA AND OXIAfPSILI AND PERISPOMENIfDASIA AND PERISPOMENI
bCAPITAL LETTER IOTA WITH PSILIfDASIAfPSILI AND VARIAfDASIA AND VARIAfPSILI AND OXIA
fDASIA AND OXIAfPSILI AND PERISPOMENIfDASIA AND PERISPOMENIbSMALL LETTER OMICRON WITH PSILIfDASIA
fPSILI AND VARIAfDASIA AND VARIAfPSILI AND OXIAfDASIA AND OXIA:1F48
aGREEK CAPITAL LETTER OMICRON WITH PSILIfDASIAfPSILI AND VARIAfDASIA AND VARIAfPSILI AND OXIA
fDASIA AND OXIA:1F50aGREEK SMALL LETTER UPSILON WITH PSILIfDASIAfPSILI AND VARIAfDASIA AND VARIA
fPSILI AND OXIAfDASIA AND OXIAfPSILI AND PERISPOMENIfDASIA AND PERISPOMENI:1F59
aGREEK CAPITAL LETTER UPSILON WITH DASIA:1F5BaGREEK CAPITAL LETTER UPSILON WITH DASIA AND VARIA
:1F5DaGREEK CAPITAL LETTER UPSILON WITH DASIA AND OXIA:1F5F
aGREEK CAPITAL LETTER UPSILON WITH DASIA AND PERISPOMENIbSMALL LETTER OMEGA WITH PSILIfDASIA
fPSILI AND VARIAfDASIA AND VARIAfPSILI AND OXIAfDASIA AND OXIAfPSILI AND PERISPOMENI
fDASIA AND PERISPOMENIbCAPITAL LETTER OMEGA WITH PSILIfDASIAfPSILI AND VARIAfDASIA AND VARIA
fPSILI AND OXIAfDASIA AND OXIAfPSILI AND PERISPOMENIfDASIA AND PERISPOMENI
bSMALL LETTER ALPHA WITH VARIAfOXIAdEPSILON WITH VARIAfOXIAdETA WITH VARIAfOXIAdIOTA WITH VARIA
fOXIAdOMICRON WITH VARIAfOXIAdUPSILON WITH VARIAfOXIAdOMEGA WITH VARIAfOXIA:1F80
aGREEK SMALL LETTER ALPHA WITH PSILI AND YPOGEGRAMMENIfDASIA AND YPOGEGRAMMENI
fPSILI AND VARIA AND YPOGEGRAMMENIfDASIA AND VARIA AND YPOGEGRAMMENI
fPSILI AND OXIA AND YPOGEGRAMMENIfDASIA AND OXIA AND YPOGEGRAMMENI
fPSILI AND PERISPOMENI AND YPOGEGRAMMENIfDASIA AND PERISPOMENI AND YPOGEGRAMMENI
bCAPITAL LETTER ALPHA WITH PSILI AND PROSGEGRAMMENIfDASIA AND PROSGEGRAMMENI
fPSILI AND VARIA AND PROSGEGRAMMENIfDASIA AND VARIA AND PROSGEGRAMMENI
fPSILI AND OXIA AND PROSGEGRAMMENIfDASIA AND OXIA AND PROSGEGRAMMENI
fPSILI AND PERISPOMENI AND PROSGEGRAMMENIfDASIA AND PERISPOMENI AND PROSGEGRAMMENI
bSMALL LETTER ETA WITH PSILI AND YPOGEGRAMMENIfDASIA AND YPOGEGRAMMENI
fPSILI AND VARIA AND YPOGEGRAMMENIfDASIA AND VARIA AND YPOGEGRAMMENI
fPSILI AND OXIA AND YPOGEGRAMMENIfDASIA AND OXIA AND YPOGEGRAMMENI
fPSILI AND PERISPOMENI AND YPOGEGRAMMENIfDASIA AND PERISPOMENI AND YPOGEGRAMMENI
bCAPITAL LETTER ETA WITH PSILI AND PROSGEGRAMMENIfDASIA AND PROSGEGRAMMENI
fPSILI AND VARIA AND PROSGEGRAMMENIfDASIA AND VARIA AND PROSGEGRAMMENI
fPSILI AND OXIA AND PROSGEGRAMMENIfDASIA AND OXIA AND PROSGEGRAMMENI
fPSILI AND PERISPOMENI AND PROSGEGRAMMENIfDASIA AND PERISPOMENI AND PROSGEGRAMMENI
bSMALL LETTER OMEGA WITH PSILI AND YPOGEGRAMMENIfDASIA AND YPOGEGRAMMENI
fPSILI AND VARIA AND YPOGEGRAMMENIfDASIA AND VARIA AND YPOGEGRAMMENI
fPSILI AND OXIA AND YPOGEGRAMMENIfDASIA AND OXIA AND YPOGEGRAMMENI
fPSILI AND PERISPOMENI AND YPOGEGRAMMENIfDASIA AND PERISPOMENI AND YPOGEGRAMMENI
bCAPITAL LETTER OMEGA WITH PSILI AND PROSGEGRAMMENIfDASIA AND PROSGEGRAMMENI
fPSILI AND VARIA AND PROSGEGRAMMENIfDASIA AND VARIA AND PROSGEGRAMMENI
fPSILI AND OXIA AND PROSGEGRAMMENIfDASIA AND OXIA AND PROSGEGRAMMENI
fPSILI AND PERISPOMENI AND PROSGEGRAMMENIfDASIA AND PERISPOMENI AND PROSGEGRAMMENI
bSMALL LETTER ALPHA WITH VRACHYfMACRONfVARIA AND YPOGEGRAMMENIfYPOGEGRAMMENI
fOXIA AND YPOGEGRAMMENI:1FB6aGREEK SMALL LETTER ALPHA WITH PERISPOMENIgAND YPOGEGRAMMENI
bCAPITAL LETTER ALPHA WITH VRACHYfMACRONfVARIAfOXIAfPROSGEGRAMMENIbKORONISbPROSGEGRAMMENIbPSILI
bPERISPOMENIbDIALYTIKA AND PERISPOMENIbSMALL LETTER ETA WITH VARIA AND YPOGEGRAMMENIfYPOGEGRAMMENI
fOXIA AND YPOGEGRAMMENI:1FC6aGREEK SMALL LETTER ETA WITH PERISPOMENIgAND YPOGEGRAMMENI
bCAPITAL LETTER EPSILON WITH VARIAfOXIAdETA WITH VARIAfOXIAfPROSGEGRAMMENIbPSILI AND VARIAdOXIA
dPERISPOMENIbSMALL LETTER IOTA WITH VRACHYfMACRONfDIALYTIKA AND VARIAhOXIA:1FD6
aGREEK SMALL LETTER IOTA WITH PERISPOMENIfDIALYTIKA AND PERISPOMENI
bCAPITAL LETTER IOTA WITH VRACHYfMACRONfVARIAfOXIA:1FDDaGREEK DASIA AND VARIAdOXIAdPERISPOMENI
bSMALL LETTER UPSILON WITH VRACHYfMACRONfDIALYTIKA AND VARIAhOXIAdRHO WITH PSILIfDASIA
dUPSILON WITH PERISPOMENIfDIALYTIKA AND PERISPOMENIbCAPITAL LETTER UPSILON WITH VRACHYfMACRON
fVARIAfOXIAdRHO WITH DASIAbDIALYTIKA AND VARIAdOXIAbVARIA:1FF2
aGREEK SMALL LETTER OMEGA WITH VARIA AND YPOGEGRAMMENIfYPOGEGRAMMENIfOXIA AND YPOGEGRAMMENI:1FF6
aGREEK SMALL LETTER OMEGA WITH PERISPOMENIgAND YPOGEGRAMMENIbCAPITAL LETTER OMICRON WITH VARIA
fOXIAdOMEGA WITH VARIAfOXIAfPROSGEGRAMMENIbOXIAbDASIA"

end TicketMigration.CharacterName
