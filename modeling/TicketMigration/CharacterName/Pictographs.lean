/-!
# Names of characters: pictographs

Letters in Arabic formulas, games, pictographs, tags and selectors.

## Main definitions

* `pictographs` is the table.
-/

namespace TicketMigration.CharacterName

/-- The table.  Behind a colon stands the code of a character.  Each name begins with a small
letter, which says how many words it has in common with the name before, and is the name of the
next code. -/
def pictographs : String :=
  ":1EE00aARABIC MATHEMATICAL ALEFcBEHcJEEMcDAL:1EE05aARABIC MATHEMATICAL WAWcZAINcHAHcTAHcYEHcKAF
cLAMcMEEMcNOONcSEENcAINcFEHcSADcQAFcREHcSHEENcTEHcTHEHcKHAHcTHALcDADcZAHcGHAINcDOTLESS BEHdNOON
dFEHdQAF:1EE21aARABIC MATHEMATICAL INITIAL BEHdJEEM:1EE24aARABIC MATHEMATICAL INITIAL HEH:1EE27
aARABIC MATHEMATICAL INITIAL HAH:1EE29aARABIC MATHEMATICAL INITIAL YEHdKAFdLAMdMEEMdNOONdSEENdAIN
dFEHdSADdQAF:1EE34aARABIC MATHEMATICAL INITIAL SHEENdTEHdTHEHdKHAH:1EE39
aARABIC MATHEMATICAL INITIAL DAD:1EE3BaARABIC MATHEMATICAL INITIAL GHAIN:1EE42
aARABIC MATHEMATICAL TAILED JEEM:1EE47aARABIC MATHEMATICAL TAILED HAH:1EE49
aARABIC MATHEMATICAL TAILED YEH:1EE4BaARABIC MATHEMATICAL TAILED LAM:1EE4D
aARABIC MATHEMATICAL TAILED NOONdSEENdAIN:1EE51aARABIC MATHEMATICAL TAILED SADdQAF:1EE54
aARABIC MATHEMATICAL TAILED SHEEN:1EE57aARABIC MATHEMATICAL TAILED KHAH:1EE59
aARABIC MATHEMATICAL TAILED DAD:1EE5BaARABIC MATHEMATICAL TAILED GHAIN:1EE5D
aARABIC MATHEMATICAL TAILED DOTLESS NOON:1EE5FaARABIC MATHEMATICAL TAILED DOTLESS QAF:1EE61
aARABIC MATHEMATICAL STRETCHED BEHdJEEM:1EE64aARABIC MATHEMATICAL STRETCHED HEH:1EE67
aARABIC MATHEMATICAL STRETCHED HAHdTAHdYEHdKAF:1EE6CaARABIC MATHEMATICAL STRETCHED MEEMdNOONdSEEN
dAINdFEHdSADdQAF:1EE74aARABIC MATHEMATICAL STRETCHED SHEENdTEHdTHEHdKHAH:1EE79
aARABIC MATHEMATICAL STRETCHED DADdZAHdGHAINdDOTLESS BEH:1EE7E
aARABIC MATHEMATICAL STRETCHED DOTLESS FEH:1EE80aARABIC MATHEMATICAL LOOPED ALEFdBEHdJEEMdDALdHEH
dWAWdZAINdHAHdTAHdYEH:1EE8BaARABIC MATHEMATICAL LOOPED LAMdMEEMdNOONdSEENdAINdFEHdSADdQAFdREH
dSHEENdTEHdTHEHdKHAHdTHALdDADdZAHdGHAIN:1EEA1aARABIC MATHEMATICAL DOUBLE-STRUCK BEHdJEEMdDAL:1EEA5
aARABIC MATHEMATICAL DOUBLE-STRUCK WAWdZAINdHAHdTAHdYEH:1EEAB
aARABIC MATHEMATICAL DOUBLE-STRUCK LAMdMEEMdNOONdSEENdAINdFEHdSADdQAFdREHdSHEENdTEHdTHEHdKHAHdTHAL
dDADdZAHdGHAIN:1EEF0aARABIC MATHEMATICAL OPERATOR MEEM WITH HAH WITH TATWEELdHAH WITH DAL:1F000
aMAHJONG TILE EAST WINDcSOUTH WINDcWEST WINDcNORTH WINDcRED DRAGONcGREEN DRAGONcWHITE DRAGON
cONE OF CHARACTERScTWO OF CHARACTERScTHREE OF CHARACTERScFOUR OF CHARACTERScFIVE OF CHARACTERS
cSIX OF CHARACTERScSEVEN OF CHARACTERScEIGHT OF CHARACTERScNINE OF CHARACTERScONE OF BAMBOOS
cTWO OF BAMBOOScTHREE OF BAMBOOScFOUR OF BAMBOOScFIVE OF BAMBOOScSIX OF BAMBOOScSEVEN OF BAMBOOS
cEIGHT OF BAMBOOScNINE OF BAMBOOScONE OF CIRCLEScTWO OF CIRCLEScTHREE OF CIRCLEScFOUR OF CIRCLES
cFIVE OF CIRCLEScSIX OF CIRCLEScSEVEN OF CIRCLEScEIGHT OF CIRCLEScNINE OF CIRCLEScPLUMcORCHID
cBAMBOOcCHRYSANTHEMUMcSPRINGcSUMMERcAUTUMNcWINTERcJOKERcBACK:1F030aDOMINO TILE HORIZONTAL BACK
cHORIZONTAL-00-00cHORIZONTAL-00-01cHORIZONTAL-00-02cHORIZONTAL-00-03cHORIZONTAL-00-04
cHORIZONTAL-00-05cHORIZONTAL-00-06cHORIZONTAL-01-00cHORIZONTAL-01-01cHORIZONTAL-01-02
cHORIZONTAL-01-03cHORIZONTAL-01-04cHORIZONTAL-01-05cHORIZONTAL-01-06cHORIZONTAL-02-00
cHORIZONTAL-02-01cHORIZONTAL-02-02cHORIZONTAL-02-03cHORIZONTAL-02-04cHORIZONTAL-02-05
cHORIZONTAL-02-06cHORIZONTAL-03-00cHORIZONTAL-03-01cHORIZONTAL-03-02cHORIZONTAL-03-03
cHORIZONTAL-03-04cHORIZONTAL-03-05cHORIZONTAL-03-06cHORIZONTAL-04-00cHORIZONTAL-04-01
cHORIZONTAL-04-02cHORIZONTAL-04-03cHORIZONTAL-04-04cHORIZONTAL-04-05cHORIZONTAL-04-06
cHORIZONTAL-05-00cHORIZONTAL-05-01cHORIZONTAL-05-02cHORIZONTAL-05-03cHORIZONTAL-05-04
cHORIZONTAL-05-05cHORIZONTAL-05-06cHORIZONTAL-06-00cHORIZONTAL-06-01cHORIZONTAL-06-02
cHORIZONTAL-06-03cHORIZONTAL-06-04cHORIZONTAL-06-05cHORIZONTAL-06-06cVERTICAL BACKcVERTICAL-00-00
cVERTICAL-00-01cVERTICAL-00-02cVERTICAL-00-03cVERTICAL-00-04cVERTICAL-00-05cVERTICAL-00-06
cVERTICAL-01-00cVERTICAL-01-01cVERTICAL-01-02cVERTICAL-01-03cVERTICAL-01-04cVERTICAL-01-05
cVERTICAL-01-06cVERTICAL-02-00cVERTICAL-02-01cVERTICAL-02-02cVERTICAL-02-03cVERTICAL-02-04
cVERTICAL-02-05cVERTICAL-02-06cVERTICAL-03-00cVERTICAL-03-01cVERTICAL-03-02cVERTICAL-03-03
cVERTICAL-03-04cVERTICAL-03-05cVERTICAL-03-06cVERTICAL-04-00cVERTICAL-04-01cVERTICAL-04-02
cVERTICAL-04-03cVERTICAL-04-04cVERTICAL-04-05cVERTICAL-04-06cVERTICAL-05-00cVERTICAL-05-01
cVERTICAL-05-02cVERTICAL-05-03cVERTICAL-05-04cVERTICAL-05-05cVERTICAL-05-06cVERTICAL-06-00
cVERTICAL-06-01cVERTICAL-06-02cVERTICAL-06-03cVERTICAL-06-04cVERTICAL-06-05cVERTICAL-06-06:1F0A0
aPLAYING CARD BACKcACE OF SPADEScTWO OF SPADEScTHREE OF SPADEScFOUR OF SPADEScFIVE OF SPADES
cSIX OF SPADEScSEVEN OF SPADEScEIGHT OF SPADEScNINE OF SPADEScTEN OF SPADEScJACK OF SPADES
cKNIGHT OF SPADEScQUEEN OF SPADEScKING OF SPADES:1F0B1aPLAYING CARD ACE OF HEARTScTWO OF HEARTS
cTHREE OF HEARTScFOUR OF HEARTScFIVE OF HEARTScSIX OF HEARTScSEVEN OF HEARTScEIGHT OF HEARTS
cNINE OF HEARTScTEN OF HEARTScJACK OF HEARTScKNIGHT OF HEARTScQUEEN OF HEARTScKING OF HEARTS
cRED JOKER:1F0C1aPLAYING CARD ACE OF DIAMONDScTWO OF DIAMONDScTHREE OF DIAMONDScFOUR OF DIAMONDS
cFIVE OF DIAMONDScSIX OF DIAMONDScSEVEN OF DIAMONDScEIGHT OF DIAMONDScNINE OF DIAMONDS
cTEN OF DIAMONDScJACK OF DIAMONDScKNIGHT OF DIAMONDScQUEEN OF DIAMONDScKING OF DIAMONDS
cBLACK JOKER:1F0D1aPLAYING CARD ACE OF CLUBScTWO OF CLUBScTHREE OF CLUBScFOUR OF CLUBS
cFIVE OF CLUBScSIX OF CLUBScSEVEN OF CLUBScEIGHT OF CLUBScNINE OF CLUBScTEN OF CLUBScJACK OF CLUBS
cKNIGHT OF CLUBScQUEEN OF CLUBScKING OF CLUBScWHITE JOKERcFOOLcTRUMP-1cTRUMP-2cTRUMP-3cTRUMP-4
cTRUMP-5cTRUMP-6cTRUMP-7cTRUMP-8cTRUMP-9cTRUMP-10cTRUMP-11cTRUMP-12cTRUMP-13cTRUMP-14cTRUMP-15
cTRUMP-16cTRUMP-17cTRUMP-18cTRUMP-19cTRUMP-20cTRUMP-21:1F100aDIGIT ZERO FULL STOPcCOMMAbONE COMMA
bTWO COMMAbTHREE COMMAbFOUR COMMAbFIVE COMMAbSIX COMMAbSEVEN COMMAbEIGHT COMMAbNINE COMMA
aDINGBAT CIRCLED SANS-SERIF DIGIT ZERObNEGATIVE CIRCLED SANS-SERIF DIGIT ZERO
aCIRCLED ZERO WITH SLASHbANTICLOCKWISE ARROWbDOLLAR SIGN WITH OVERLAID BACKSLASH
aPARENTHESIZED LATIN CAPITAL LETTER AeBeCeDeEeFeGeHeIeJeKeLeMeNeOePeQeReSeTeUeVeWeXeYeZ
aTORTOISE SHELL BRACKETED LATIN CAPITAL LETTER SaCIRCLED ITALIC LATIN CAPITAL LETTER CfRbCDbWZ
aCOPYLEFT SYMBOLaSQUARED LATIN CAPITAL LETTER AeBeCeDeEeFeGeHeIeJeKeLeMeNeOePeQeReSeTeUeVeWeXeYeZ
bHVbMVbSDbSSbPPVbWCaNEGATIVE CIRCLED LATIN CAPITAL LETTER AfBfCfDfEfFfGfHfIfJfKfLfMfNfOfPfQfRfSfT
fUfVfWfXfYfZaRAISED MC SIGNbMD SIGNbMR SIGNaCIRCLED CCbC WITH OVERLAID BACKSLASHbHUMAN FIGURE
aNEGATIVE SQUARED LATIN CAPITAL LETTER AfBfCfDfEfFfGfHfIfJfKfLfMfNfOfPfQfRfSfTfUfVfWfXfYfZ
aCROSSED NEGATIVE SQUARED LATIN CAPITAL LETTER PaNEGATIVE SQUARED ICcPAcSAcABcWCaSQUARE DJ
aSQUARED CLbCOOLbFREEbIDbNEWbNGbOKbSOSbUP WITH EXCLAMATION MARKbVSbTHREE DbSECOND SCREENbTWO K
bFOUR KbEIGHT KbFIVE POINT ONEbSEVEN POINT ONEbTWENTY-TWO POINT TWObSIXTY PbONE HUNDRED TWENTY P
bLATIN SMALL LETTER DbHCbHDRbHI-RESbLOSSLESSbSHVbUHDbVODaMASK WORK SYMBOL:1F1E6
aREGIONAL INDICATOR SYMBOL LETTER AeBeCeDeEeFeGeHeIeJeKeLeMeNeOePeQeReSeTeUeVeWeXeYeZ
aSQUARE HIRAGANA HOKAaSQUARED KATAKANA KOKOcSA:1F210aSQUARED CJK UNIFIED IDEOGRAPH-624B
dIDEOGRAPH-5B57dIDEOGRAPH-53CCbKATAKANA DEbCJK UNIFIED IDEOGRAPH-4E8CdIDEOGRAPH-591A
dIDEOGRAPH-89E3dIDEOGRAPH-5929dIDEOGRAPH-4EA4dIDEOGRAPH-6620dIDEOGRAPH-7121dIDEOGRAPH-6599
dIDEOGRAPH-524DdIDEOGRAPH-5F8CdIDEOGRAPH-518DdIDEOGRAPH-65B0dIDEOGRAPH-521DdIDEOGRAPH-7D42
dIDEOGRAPH-751FdIDEOGRAPH-8CA9dIDEOGRAPH-58F0dIDEOGRAPH-5439dIDEOGRAPH-6F14dIDEOGRAPH-6295
dIDEOGRAPH-6355dIDEOGRAPH-4E00dIDEOGRAPH-4E09dIDEOGRAPH-904AdIDEOGRAPH-5DE6dIDEOGRAPH-4E2D
dIDEOGRAPH-53F3dIDEOGRAPH-6307dIDEOGRAPH-8D70dIDEOGRAPH-6253dIDEOGRAPH-7981dIDEOGRAPH-7A7A
dIDEOGRAPH-5408dIDEOGRAPH-6E80dIDEOGRAPH-6709dIDEOGRAPH-6708dIDEOGRAPH-7533dIDEOGRAPH-5272
dIDEOGRAPH-55B6dIDEOGRAPH-914D:1F240aTORTOISE SHELL BRACKETED CJK UNIFIED IDEOGRAPH-672C
fIDEOGRAPH-4E09fIDEOGRAPH-4E8CfIDEOGRAPH-5B89fIDEOGRAPH-70B9fIDEOGRAPH-6253fIDEOGRAPH-76D7
fIDEOGRAPH-52DDfIDEOGRAPH-6557:1F250aCIRCLED IDEOGRAPH ADVANTAGEcACCEPT:1F260
aROUNDED SYMBOL FOR FUdLUdSHOUdXIdSHUANGXIdCAI:1F300aCYCLONEaFOGGYaCLOSED UMBRELLA
aNIGHT WITH STARSaSUNRISE OVER MOUNTAINSaSUNRISEaCITYSCAPE AT DUSKaSUNSET OVER BUILDINGSaRAINBOW
aBRIDGE AT NIGHTaWATER WAVEaVOLCANOaMILKY WAYaEARTH GLOBE EUROPE-AFRICAcAMERICAScASIA-AUSTRALIA
aGLOBE WITH MERIDIANSaNEW MOON SYMBOLaWAXING CRESCENT MOON SYMBOLaFIRST QUARTER MOON SYMBOL
aWAXING GIBBOUS MOON SYMBOLaFULL MOON SYMBOLaWANING GIBBOUS MOON SYMBOLaLAST QUARTER MOON SYMBOL
aWANING CRESCENT MOON SYMBOLaCRESCENT MOONaNEW MOON WITH FACEaFIRST QUARTER MOON WITH FACE
aLAST QUARTER MOON WITH FACEaFULL MOON WITH FACEaSUN WITH FACEaGLOWING STARaSHOOTING STAR
aTHERMOMETERaBLACK DROPLETaWHITE SUNcWITH SMALL CLOUDcBEHIND CLOUDeWITH RAINaCLOUD WITH RAINcSNOW
cLIGHTNINGcTORNADOaFOGaWIND BLOWING FACEaHOT DOGaTACOaBURRITOaCHESTNUTaSEEDLINGaEVERGREEN TREE
aDECIDUOUS TREEaPALM TREEaCACTUSaHOT PEPPERaTULIPaCHERRY BLOSSOMaROSEaHIBISCUSaSUNFLOWERaBLOSSOM
aEAR OF MAIZEcRICEaHERBaFOUR LEAF CLOVERaMAPLE LEAFaFALLEN LEAFaLEAF FLUTTERING IN WINDaMUSHROOM
aTOMATOaAUBERGINEaGRAPESaMELONaWATERMELONaTANGERINEaLEMONaBANANAaPINEAPPLEaRED APPLEaGREEN APPLE
aPEARaPEACHaCHERRIESaSTRAWBERRYaHAMBURGERaSLICE OF PIZZAaMEAT ON BONEaPOULTRY LEGaRICE CRACKER
bBALLaCOOKED RICEaCURRY AND RICEaSTEAMING BOWLaSPAGHETTIaBREADaFRENCH FRIESaROASTED SWEET POTATO
aDANGOaODENaSUSHIaFRIED SHRIMPaFISH CAKE WITH SWIRL DESIGNaSOFT ICE CREAMaSHAVED ICEaICE CREAM
aDOUGHNUTaCOOKIEaCHOCOLATE BARaCANDYaLOLLIPOPaCUSTARDaHONEY POTaSHORTCAKEaBENTO BOXaPOT OF FOOD
aCOOKINGaFORK AND KNIFEaTEACUP WITHOUT HANDLEaSAKE BOTTLE AND CUPaWINE GLASSaCOCKTAIL GLASS
aTROPICAL DRINKaBEER MUGaCLINKING BEER MUGSaBABY BOTTLEaFORK AND KNIFE WITH PLATE
aBOTTLE WITH POPPING CORKaPOPCORNaRIBBONaWRAPPED PRESENTaBIRTHDAY CAKEaJACK-O-LANTERN
aCHRISTMAS TREEaFATHER CHRISTMASaFIREWORKSaFIREWORK SPARKLERaBALLOONaPARTY POPPERaCONFETTI BALL
aTANABATA TREEaCROSSED FLAGSaPINE DECORATIONaJAPANESE DOLLSaCARP STREAMERaWIND CHIME
aMOON VIEWING CEREMONYaSCHOOL SATCHELaGRADUATION CAPaHEART WITH TIP ON THE LEFTaBOUQUET OF FLOWERS
aMILITARY MEDALaREMINDER RIBBONaMUSICAL KEYBOARD WITH JACKSaSTUDIO MICROPHONEaLEVEL SLIDER
aCONTROL KNOBSaBEAMED ASCENDING MUSICAL NOTESbDESCENDING MUSICAL NOTESaFILM FRAMES
aADMISSION TICKETSaCAROUSEL HORSEaFERRIS WHEELaROLLER COASTERaFISHING POLE AND FISHaMICROPHONE
aMOVIE CAMERAaCINEMAaHEADPHONEaARTIST PALETTEaTOP HATaCIRCUS TENTaTICKETaCLAPPER BOARD
aPERFORMING ARTSaVIDEO GAMEaDIRECT HITaSLOT MACHINEaBILLIARDSaGAME DIEaBOWLING
aFLOWER PLAYING CARDSaMUSICAL NOTEaMULTIPLE MUSICAL NOTESaSAXOPHONEaGUITARaMUSICAL KEYBOARD
aTRUMPETaVIOLINaMUSICAL SCOREaRUNNING SHIRT WITH SASHaTENNIS RACQUET AND BALLaSKI AND SKI BOOT
aBASKETBALL AND HOOPaCHEQUERED FLAGaSNOWBOARDERaRUNNERaSURFERaSPORTS MEDALaTROPHYaHORSE RACING
aAMERICAN FOOTBALLaRUGBY FOOTBALLaSWIMMERaWEIGHT LIFTERaGOLFERaRACING MOTORCYCLEbCAR
aCRICKET BAT AND BALLaVOLLEYBALLaFIELD HOCKEY STICK AND BALLaICE HOCKEY STICK AND PUCK
aTABLE TENNIS PADDLE AND BALLaSNOW CAPPED MOUNTAINaCAMPINGaBEACH WITH UMBRELLA
aBUILDING CONSTRUCTIONaHOUSE BUILDINGSaCITYSCAPEaDERELICT HOUSE BUILDINGaCLASSICAL BUILDINGaDESERT
bISLANDaNATIONAL PARKaSTADIUMaHOUSE BUILDINGbWITH GARDENaOFFICE BUILDINGaJAPANESE POST OFFICE
aEUROPEAN POST OFFICEaHOSPITALaBANKaAUTOMATED TELLER MACHINEaHOTELaLOVE HOTELaCONVENIENCE STORE
aSCHOOLaDEPARTMENT STOREaFACTORYaIZAKAYA LANTERNaJAPANESE CASTLEaEUROPEAN CASTLEaWHITE PENNANT
aBLACK PENNANTaWAVING WHITE FLAGbBLACK FLAGaROSETTEaBLACK ROSETTEaLABEL
aBADMINTON RACQUET AND SHUTTLECOCKaBOW AND ARROWaAMPHORAaEMOJI MODIFIER FITZPATRICK TYPE-1-2
dTYPE-3dTYPE-4dTYPE-5dTYPE-6aRATaMOUSEaOXaWATER BUFFALOaCOWaTIGERaLEOPARDaRABBITaCATaDRAGON
aCROCODILEaWHALEaSNAILaSNAKEaHORSEaRAMaGOATaSHEEPaMONKEYaROOSTERaCHICKENaDOGaPIGaBOARaELEPHANT
aOCTOPUSaSPIRAL SHELLaBUGaANTaHONEYBEEaLADY BEETLEaFISHaTROPICAL FISHaBLOWFISHaTURTLE
aHATCHING CHICKaBABY CHICKaFRONT-FACING BABY CHICKaBIRDaPENGUINaKOALAaPOODLEaDROMEDARY CAMEL
aBACTRIAN CAMELaDOLPHINaMOUSE FACEaCOW FACEaTIGER FACEaRABBIT FACEaCAT FACEaDRAGON FACE
aSPOUTING WHALEaHORSE FACEaMONKEY FACEaDOG FACEaPIG FACEaFROG FACEaHAMSTER FACEaWOLF FACE
aBEAR FACEaPANDA FACEaPIG NOSEaPAW PRINTSaCHIPMUNKaEYESaEYEaEARaNOSEaMOUTHaTONGUE
aWHITE UP POINTING BACKHAND INDEXbDOWN POINTING BACKHAND INDEXbLEFT POINTING BACKHAND INDEX
bRIGHT POINTING BACKHAND INDEXaFISTED HAND SIGNaWAVING HAND SIGNaOK HAND SIGNaTHUMBS UP SIGN
bDOWN SIGNaCLAPPING HANDS SIGNaOPEN HANDS SIGNaCROWNaWOMANS HATaEYEGLASSESaNECKTIEaT-SHIRTaJEANS
aDRESSaKIMONOaBIKINIaWOMANS CLOTHESaPURSEaHANDBAGaPOUCHaMANS SHOEaATHLETIC SHOEaHIGH-HEELED SHOE
aWOMANS SANDALbBOOTSaFOOTPRINTSaBUST IN SILHOUETTEaBUSTS IN SILHOUETTEaBOYaGIRLaMANaWOMANaFAMILY
aMAN AND WOMAN HOLDING HANDSaTWO MEN HOLDING HANDSbWOMEN HOLDING HANDSaPOLICE OFFICER
aWOMAN WITH BUNNY EARSaBRIDE WITH VEILaPERSON WITH BLOND HAIRaMAN WITH GUA PI MAOcTURBANaOLDER MAN
bWOMANaBABYaCONSTRUCTION WORKERaPRINCESSaJAPANESE OGREbGOBLINaGHOSTaBABY ANGEL
aEXTRATERRESTRIAL ALIENaALIEN MONSTERaIMPaSKULLaINFORMATION DESK PERSONaGUARDSMANaDANCERaLIPSTICK
aNAIL POLISHaFACE MASSAGEaHAIRCUTaBARBER POLEaSYRINGEaPILLaKISS MARKaLOVE LETTERaRINGaGEM STONE
aKISSaBOUQUETaCOUPLE WITH HEARTaWEDDINGaBEATING HEARTaBROKEN HEARTaTWO HEARTSaSPARKLING HEART
aGROWING HEARTaHEART WITH ARROWaBLUE HEARTaGREEN HEARTaYELLOW HEARTaPURPLE HEARTaHEART WITH RIBBON
aREVOLVING HEARTSaHEART DECORATIONaDIAMOND SHAPE WITH A DOT INSIDEaELECTRIC LIGHT BULB
aANGER SYMBOLaBOMBaSLEEPING SYMBOLaCOLLISION SYMBOLaSPLASHING SWEAT SYMBOLaDROPLETaDASH SYMBOL
aPILE OF POOaFLEXED BICEPSaDIZZY SYMBOLaSPEECH BALLOONaTHOUGHT BALLOONaWHITE FLOWER
aHUNDRED POINTS SYMBOLaMONEY BAGaCURRENCY EXCHANGEaHEAVY DOLLAR SIGNaCREDIT CARD
aBANKNOTE WITH YEN SIGNcDOLLAR SIGNcEURO SIGNcPOUND SIGNaMONEY WITH WINGS
aCHART WITH UPWARDS TREND AND YEN SIGNaSEATaPERSONAL COMPUTERaBRIEFCASEaMINIDISCaFLOPPY DISK
aOPTICAL DISCaDVDaFILE FOLDERaOPEN FILE FOLDERaPAGE WITH CURLbFACING UPaCALENDARaTEAR-OFF CALENDAR
aCARD INDEXaCHART WITH UPWARDS TRENDcDOWNWARDS TRENDaBAR CHARTaCLIPBOARDaPUSHPINaROUND PUSHPIN
aPAPERCLIPaSTRAIGHT RULERaTRIANGULAR RULERaBOOKMARK TABSaLEDGERaNOTEBOOKbWITH DECORATIVE COVER
aCLOSED BOOKaOPEN BOOKaGREEN BOOKaBLUE BOOKaORANGE BOOKaBOOKSaNAME BADGEaSCROLLaMEMO
aTELEPHONE RECEIVERaPAGERaFAX MACHINEaSATELLITE ANTENNAaPUBLIC ADDRESS LOUDSPEAKER
aCHEERING MEGAPHONEaOUTBOX TRAYaINBOX TRAYaPACKAGEaE-MAIL SYMBOLaINCOMING ENVELOPE
aENVELOPE WITH DOWNWARDS ARROW ABOVEaCLOSED MAILBOX WITH LOWERED FLAGdRAISED FLAG
aOPEN MAILBOX WITH RAISED FLAGdLOWERED FLAGaPOSTBOXaPOSTAL HORNaNEWSPAPERaMOBILE PHONE
cWITH RIGHTWARDS ARROW AT LEFTaVIBRATION MODEaMOBILE PHONE OFFaNO MOBILE PHONESaANTENNA WITH BARS
aCAMERAbWITH FLASHaVIDEO CAMERAaTELEVISIONaRADIOaVIDEOCASSETTEaFILM PROJECTORaPORTABLE STEREO
aPRAYER BEADSaTWISTED RIGHTWARDS ARROWSaCLOCKWISE RIGHTWARDS AND LEFTWARDS OPEN CIRCLE ARROWS
hWITH CIRCLED ONE OVERLAYbDOWNWARDS AND UPWARDS OPEN CIRCLE ARROWS
aANTICLOCKWISE DOWNWARDS AND UPWARDS OPEN CIRCLE ARROWSaLOW BRIGHTNESS SYMBOL
aHIGH BRIGHTNESS SYMBOLaSPEAKER WITH CANCELLATION STROKEaSPEAKERbWITH ONE SOUND WAVE
cTHREE SOUND WAVESaBATTERYaELECTRIC PLUGaLEFT-POINTING MAGNIFYING GLASS
aRIGHT-POINTING MAGNIFYING GLASSaLOCK WITH INK PENaCLOSED LOCK WITH KEYaKEYaLOCKaOPEN LOCKaBELL
bWITH CANCELLATION STROKEaBOOKMARKaLINK SYMBOLaRADIO BUTTONaBACK WITH LEFTWARDS ARROW ABOVE
aEND WITH LEFTWARDS ARROW ABOVEaON WITH EXCLAMATION MARK WITH LEFT RIGHT ARROW ABOVE
aSOON WITH RIGHTWARDS ARROW ABOVEaTOP WITH UPWARDS ARROW ABOVEaNO ONE UNDER EIGHTEEN SYMBOL
aKEYCAP TENaINPUT SYMBOL FOR LATIN CAPITAL LETTERSeSMALL LETTERSdNUMBERSdSYMBOLSdLATIN LETTERS
aFIREaELECTRIC TORCHaWRENCHaHAMMERaNUT AND BOLTaHOCHOaPISTOLaMICROSCOPEaTELESCOPEaCRYSTAL BALL
aSIX POINTED STAR WITH MIDDLE DOTaJAPANESE SYMBOL FOR BEGINNERaTRIDENT EMBLEMaBLACK SQUARE BUTTON
aWHITE SQUARE BUTTONaLARGE RED CIRCLEbBLUE CIRCLEbORANGE DIAMONDbBLUE DIAMONDaSMALL ORANGE DIAMOND
bBLUE DIAMONDaUP-POINTING RED TRIANGLEaDOWN-POINTING RED TRIANGLEaUP-POINTING SMALL RED TRIANGLE
aDOWN-POINTING SMALL RED TRIANGLEaLOWER RIGHT SHADOWED WHITE CIRCLE
aUPPER RIGHT SHADOWED WHITE CIRCLEaCIRCLED CROSS POMMEEaCROSS POMMEE WITH HALF-CIRCLE BELOWbPOMMEE
aNOTCHED LEFT SEMICIRCLE WITH THREE DOTSbRIGHT SEMICIRCLE WITH THREE DOTSaSYMBOL FOR MARKS CHAPTER
aWHITE LATIN CROSSaHEAVY LATIN CROSSaCELTIC CROSSaOM SYMBOLaDOVE OF PEACEaKAABAaMOSQUEaSYNAGOGUE
aMENORAH WITH NINE BRANCHESaBOWL OF HYGIEIAaCLOCK FACE ONE OCLOCKcTWO OCLOCKcTHREE OCLOCK
cFOUR OCLOCKcFIVE OCLOCKcSIX OCLOCKcSEVEN OCLOCKcEIGHT OCLOCKcNINE OCLOCKcTEN OCLOCKcELEVEN OCLOCK
cTWELVE OCLOCKcONE-THIRTYcTWO-THIRTYcTHREE-THIRTYcFOUR-THIRTYcFIVE-THIRTYcSIX-THIRTYcSEVEN-THIRTY
cEIGHT-THIRTYcNINE-THIRTYcTEN-THIRTYcELEVEN-THIRTYcTWELVE-THIRTYaRIGHT SPEAKERcWITH ONE SOUND WAVE
dTHREE SOUND WAVESaBULLHORNbWITH SOUND WAVESaRINGING BELLaBOOKaCANDLEaMANTELPIECE CLOCK
aBLACK SKULL AND CROSSBONESaNO PIRACYaHOLEaMAN IN BUSINESS SUIT LEVITATINGaSLEUTH OR SPY
aDARK SUNGLASSESaSPIDERbWEBaJOYSTICKaMAN DANCINGaLEFT HAND TELEPHONE RECEIVER
aTELEPHONE RECEIVER WITH PAGEaRIGHT HAND TELEPHONE RECEIVERaWHITE TOUCHTONE TELEPHONE
aBLACK TOUCHTONE TELEPHONEaTELEPHONE ON TOP OF MODEMaCLAMSHELL MOBILE PHONEaBACK OF ENVELOPE
aSTAMPED ENVELOPEaENVELOPE WITH LIGHTNINGaFLYING ENVELOPEaPEN OVER STAMPED ENVELOPE
aLINKED PAPERCLIPSaBLACK PUSHPINaLOWER LEFT PENCILcBALLPOINT PENcFOUNTAIN PENcPAINTBRUSHcCRAYON
aLEFT WRITING HANDaTURNED OK HAND SIGNaRAISED HAND WITH FINGERS SPLAYED
aREVERSED RAISED HAND WITH FINGERS SPLAYEDbTHUMBS UP SIGNcDOWN SIGNbVICTORY HAND
bHAND WITH MIDDLE FINGER EXTENDEDaRAISED HAND WITH PART BETWEEN MIDDLE AND RING FINGERS
aWHITE DOWN POINTING LEFT HAND INDEXaSIDEWAYS WHITE LEFT POINTING INDEXcRIGHT POINTING INDEX
bBLACK LEFT POINTING INDEXcRIGHT POINTING INDEXaBLACK LEFT POINTING BACKHAND INDEX
bRIGHT POINTING BACKHAND INDEXaSIDEWAYS WHITE UP POINTING INDEXcDOWN POINTING INDEX
bBLACK UP POINTING INDEXcDOWN POINTING INDEXaBLACK UP POINTING BACKHAND INDEX
bDOWN POINTING BACKHAND INDEXbHEARTaDESKTOP COMPUTERaKEYBOARD AND MOUSEaTHREE NETWORKED COMPUTERS
aPRINTERaPOCKET CALCULATORaBLACK HARD SHELL FLOPPY DISKaWHITE HARD SHELL FLOPPY DISK
aSOFT SHELL FLOPPY DISKaTAPE CARTRIDGEaWIRED KEYBOARDaONE BUTTON MOUSEaTWO BUTTON MOUSE
aTHREE BUTTON MOUSEaTRACKBALLaOLD PERSONAL COMPUTERaHARD DISKaSCREENaPRINTER ICONaFAX ICON
aOPTICAL DISC ICONaDOCUMENT WITH TEXTdAND PICTUREcPICTUREaFRAME WITH PICTUREcTILEScAN X
aBLACK FOLDERaFOLDERaOPEN FOLDERaCARD INDEX DIVIDERSbFILE BOXaFILE CABINETaEMPTY NOTEcPAGEcPAD
aNOTEbPAGEbPADaEMPTY DOCUMENTbPAGEbPAGESaDOCUMENTaPAGEaPAGESaWASTEBASKETaSPIRAL NOTE PAD
bCALENDAR PADaDESKTOP WINDOWaMINIMIZEaMAXIMIZEaOVERLAPaCLOCKWISE RIGHT AND LEFT SEMICIRCLE ARROWS
aCANCELLATION XaINCREASE FONT SIZE SYMBOLaDECREASE FONT SIZE SYMBOLaCOMPRESSIONaOLD KEY
aROLLED-UP NEWSPAPERaPAGE WITH CIRCLED TEXTaSTOCK CHARTaDAGGER KNIFEaLIPS
aSPEAKING HEAD IN SILHOUETTEaTHREE RAYS ABOVEcBELOWcLEFTcRIGHTaLEFT SPEECH BUBBLE
aRIGHT SPEECH BUBBLEaTWO SPEECH BUBBLESaTHREE SPEECH BUBBLESaLEFT THOUGHT BUBBLE
aRIGHT THOUGHT BUBBLEaLEFT ANGER BUBBLEaRIGHT ANGER BUBBLEaMOOD BUBBLEaLIGHTNING MOOD BUBBLEbMOOD
aBALLOT BOX WITH BALLOTbSCRIPT XbBOX WITH SCRIPT XbBOLD SCRIPT XbBOX WITH BOLD SCRIPT X
aLIGHT CHECK MARKaBALLOT BOX WITH BOLD CHECKaWORLD MAPaMOUNT FUJIaTOKYO TOWERaSTATUE OF LIBERTY
aSILHOUETTE OF JAPANaMOYAIaGRINNING FACEcWITH SMILING EYESaFACE WITH TEARS OF JOY
aSMILING FACE WITH OPEN MOUTHfAND SMILING EYESgCOLD SWEATgTIGHTLY-CLOSED EYESdHALOdHORNS
aWINKING FACEaSMILING FACE WITH SMILING EYESaFACE SAVOURING DELICIOUS FOODaRELIEVED FACE
aSMILING FACE WITH HEART-SHAPED EYESdSUNGLASSESaSMIRKING FACEaNEUTRAL FACEaEXPRESSIONLESS FACE
aUNAMUSED FACEaFACE WITH COLD SWEATaPENSIVE FACEaCONFUSED FACEaCONFOUNDED FACEaKISSING FACE
aFACE THROWING A KISSaKISSING FACE WITH SMILING EYESdCLOSED EYESaFACE WITH STUCK-OUT TONGUE
eAND WINKING EYEfTIGHTLY-CLOSED EYESaDISAPPOINTED FACEaWORRIED FACEaANGRY FACEaPOUTING FACE
aCRYING FACEaPERSEVERING FACEaFACE WITH LOOK OF TRIUMPHaDISAPPOINTED BUT RELIEVED FACE
aFROWNING FACE WITH OPEN MOUTHaANGUISHED FACEaFEARFUL FACEaWEARY FACEaSLEEPY FACEaTIRED FACE
aGRIMACING FACEaLOUDLY CRYING FACEaFACE WITH OPEN MOUTHaHUSHED FACE
aFACE WITH OPEN MOUTH AND COLD SWEATbSCREAMING IN FEARaASTONISHED FACEaFLUSHED FACEaSLEEPING FACE
aDIZZY FACEaFACE WITHOUT MOUTHbWITH MEDICAL MASKaGRINNING CAT FACE WITH SMILING EYES
aCAT FACE WITH TEARS OF JOYaSMILING CAT FACE WITH OPEN MOUTHeHEART-SHAPED EYES
aCAT FACE WITH WRY SMILEaKISSING CAT FACE WITH CLOSED EYESaPOUTING CAT FACEaCRYING CAT FACE
aWEARY CAT FACEaSLIGHTLY FROWNING FACEbSMILING FACEaUPSIDE-DOWN FACEaFACE WITH ROLLING EYES
cNO GOOD GESTUREcOK GESTUREaPERSON BOWING DEEPLYaSEE-NO-EVIL MONKEYaHEAR-NO-EVIL MONKEY
aSPEAK-NO-EVIL MONKEYaHAPPY PERSON RAISING ONE HANDaPERSON RAISING BOTH HANDS IN CELEBRATION
bFROWNINGbWITH POUTING FACEcFOLDED HANDSaNORTH WEST POINTING LEAFaSOUTH WEST POINTING LEAF
aNORTH EAST POINTING LEAFaSOUTH EAST POINTING LEAFaTURNED NORTH WEST POINTING LEAF
bSOUTH WEST POINTING LEAFbNORTH EAST POINTING LEAFbSOUTH EAST POINTING LEAF
aNORTH WEST POINTING VINE LEAFaSOUTH WEST POINTING VINE LEAFaNORTH EAST POINTING VINE LEAF
aSOUTH EAST POINTING VINE LEAFaHEAVY NORTH WEST POINTING VINE LEAFbSOUTH WEST POINTING VINE LEAF
bNORTH EAST POINTING VINE LEAFbSOUTH EAST POINTING VINE LEAFaNORTH WEST POINTING BUD
aSOUTH WEST POINTING BUDaNORTH EAST POINTING BUDaSOUTH EAST POINTING BUD
aHEAVY NORTH WEST POINTING BUDbSOUTH WEST POINTING BUDbNORTH EAST POINTING BUD
bSOUTH EAST POINTING BUDaHOLLOW QUILT SQUARE ORNAMENTeIN BLACK SQUAREaSOLID QUILT SQUARE ORNAMENT
eIN BLACK SQUAREaLEFTWARDS ROCKETaUPWARDS ROCKETaRIGHTWARDS ROCKETaDOWNWARDS ROCKET
aSCRIPT LIGATURE ET ORNAMENTaHEAVY SCRIPT LIGATURE ET ORNAMENTaLIGATURE OPEN ET ORNAMENT
aHEAVY LIGATURE OPEN ET ORNAMENTbAMPERSAND ORNAMENTaSWASH AMPERSAND ORNAMENT
aSANS-SERIF HEAVY DOUBLE TURNED COMMA QUOTATION MARK ORNAMENTdCOMMA QUOTATION MARK ORNAMENT
cLOW DOUBLE COMMA QUOTATION MARK ORNAMENTaHEAVY INTERROBANG ORNAMENT
aSANS-SERIF INTERROBANG ORNAMENTaHEAVY SANS-SERIF INTERROBANG ORNAMENTaVERY HEAVY SOLIDUS
cREVERSE SOLIDUSaCHECKER BOARDaREVERSE CHECKER BOARDaROCKETaHELICOPTERaSTEAM LOCOMOTIVE
aRAILWAY CARaHIGH-SPEED TRAINcWITH BULLET NOSEaTRAINaMETROaLIGHT RAILaSTATIONaTRAMbCARaBUS
aONCOMING BUSaTROLLEYBUSaBUS STOPaMINIBUSaAMBULANCEaFIRE ENGINEaPOLICE CARaONCOMING POLICE CAR
aTAXIaONCOMING TAXIaAUTOMOBILEaONCOMING AUTOMOBILEaRECREATIONAL VEHICLEaDELIVERY TRUCK
aARTICULATED LORRYaTRACTORaMONORAILaMOUNTAIN RAILWAYaSUSPENSION RAILWAYaMOUNTAIN CABLEWAY
aAERIAL TRAMWAYaSHIPaROWBOATaSPEEDBOATaHORIZONTAL TRAFFIC LIGHTaVERTICAL TRAFFIC LIGHT
aCONSTRUCTION SIGNaPOLICE CARS REVOLVING LIGHTaTRIANGULAR FLAG ON POSTaDOORaNO ENTRY SIGN
aSMOKING SYMBOLaNO SMOKING SYMBOLaPUT LITTER IN ITS PLACE SYMBOLaDO NOT LITTER SYMBOL
aPOTABLE WATER SYMBOLaNON-POTABLE WATER SYMBOLaBICYCLEaNO BICYCLESaBICYCLISTaMOUNTAIN BICYCLIST
aPEDESTRIANaNO PEDESTRIANSaCHILDREN CROSSINGaMENS SYMBOLaWOMENS SYMBOLaRESTROOMaBABY SYMBOLaTOILET
aWATER CLOSETaSHOWERaBATHaBATHTUBaPASSPORT CONTROLaCUSTOMSaBAGGAGE CLAIMaLEFT LUGGAGE
aTRIANGLE WITH ROUNDED CORNERSaPROHIBITED SIGNaCIRCLED INFORMATION SOURCEaBOYS SYMBOLaGIRLS SYMBOL
aCOUCH AND LAMPaSLEEPING ACCOMMODATIONaSHOPPING BAGSaBELLHOP BELLaBEDaPLACE OF WORSHIP
aOCTAGONAL SIGNaSHOPPING TROLLEYaSTUPAaPAGODAaHINDU TEMPLEaHUTaELEVATOR:1F6DDaPLAYGROUND SLIDE
aWHEELaRING BUOYaHAMMER AND WRENCHaSHIELDaOIL DRUMaMOTORWAYaRAILWAY TRACKaMOTOR BOAT
aUP-POINTING MILITARY AIRPLANEbAIRPLANEbSMALL AIRPLANEaSMALL AIRPLANEaNORTHEAST-POINTING AIRPLANE
aAIRPLANE DEPARTUREbARRIVING:1F6F0aSATELLITEaONCOMING FIRE ENGINEaDIESEL LOCOMOTIVEaPASSENGER SHIP
aSCOOTERaMOTOR SCOOTERaCANOEaSLEDaFLYING SAUCERaSKATEBOARDaAUTO RICKSHAWaPICKUP TRUCKaROLLER SKATE
:1F700aALCHEMICAL SYMBOL FOR QUINTESSENCEdAIRdFIREdEARTHdWATERdAQUAFORTISdAQUA REGIAeREGIA-2eVITAE
eVITAE-2dVINEGARdVINEGAR-2dVINEGAR-3dSULFURdPHILOSOPHERS SULFURdBLACK SULFURdMERCURY SUBLIMATE
eSUBLIMATE-2eSUBLIMATE-3dCINNABARdSALTdNITREdVITRIOLdVITRIOL-2dROCK SALTeSALT-2dGOLDdSILVER
dIRON OREeORE-2dCROCUS OF IRONdREGULUS OF IRONdCOPPER OREdIRON-COPPER OREdSUBLIMATE OF COPPER
dCROCUS OF COPPERfCOPPER-2dCOPPER ANTIMONIATEdSALT OF COPPER ANTIMONIATE
dSUBLIMATE OF SALT OF COPPERdVERDIGRISdTIN OREdLEAD OREdANTIMONY OREdSUBLIMATE OF ANTIMONY
dSALT OF ANTIMONYdSUBLIMATE OF SALT OF ANTIMONYdVINEGAR OF ANTIMONYdREGULUS OF ANTIMONYfANTIMONY-2
dREGULUSdREGULUS-2dREGULUS-3dREGULUS-4dALKALIdALKALI-2dMARCASITEdSAL-AMMONIACdARSENICdREALGAR
dREALGAR-2dAURIPIGMENTdBISMUTH OREdTARTARdTARTAR-2dQUICK LIMEdBORAXdBORAX-2dBORAX-3dALUMdOIL
dSPIRITdTINCTUREdGUMdWAXdPOWDERdCALXdTUTTYdCAPUT MORTUUMdSCEPTER OF JOVEdCADUCEUSdTRIDENT
dSTARRED TRIDENTdLODESTONEdSOAPdURINEdHORSE DUNGdASHESdPOT ASHESdBRICKdPOWDERED BRICKdAMALGAM
dSTRATUM SUPER STRATUMfSTRATUM-2dSUBLIMATIONdPRECIPITATEdDISTILLdDISSOLVEdDISSOLVE-2dPURIFY
dPUTREFACTIONdCRUCIBLEdCRUCIBLE-2dCRUCIBLE-3dCRUCIBLE-4dCRUCIBLE-5dALEMBICdBATH OF MARYfVAPOURS
dRETORTdHOURdNIGHTdDAY-NIGHTdMONTHdHALF DRAMeOUNCE:1F780
aBLACK LEFT-POINTING ISOSCELES RIGHT TRIANGLEbUP-POINTING ISOSCELES RIGHT TRIANGLE
bRIGHT-POINTING ISOSCELES RIGHT TRIANGLEbDOWN-POINTING ISOSCELES RIGHT TRIANGLE
bSLIGHTLY SMALL CIRCLEaMEDIUM BOLD WHITE CIRCLEaBOLD WHITE CIRCLEaHEAVY WHITE CIRCLE
aVERY HEAVY WHITE CIRCLEaEXTREMELY HEAVY WHITE CIRCLEaWHITE CIRCLE CONTAINING BLACK SMALL CIRCLE
aROUND TARGETaBLACK TINY SQUAREbSLIGHTLY SMALL SQUAREaLIGHT WHITE SQUAREaMEDIUM WHITE SQUARE
aBOLD WHITE SQUAREaHEAVY WHITE SQUAREaVERY HEAVY WHITE SQUAREaEXTREMELY HEAVY WHITE SQUARE
aWHITE SQUARE CONTAINING BLACK VERY SMALL SQUAREeMEDIUM SQUAREaSQUARE TARGETaBLACK TINY DIAMOND
bVERY SMALL DIAMONDbMEDIUM SMALL DIAMONDaWHITE DIAMOND CONTAINING BLACK VERY SMALL DIAMOND
eMEDIUM DIAMONDaDIAMOND TARGETaBLACK TINY LOZENGEbVERY SMALL LOZENGEbMEDIUM SMALL LOZENGE
aWHITE LOZENGE CONTAINING BLACK SMALL LOZENGEaTHIN GREEK CROSSaLIGHT GREEK CROSS
aMEDIUM GREEK CROSSaBOLD GREEK CROSSaVERY BOLD GREEK CROSSbHEAVY GREEK CROSS
aEXTREMELY HEAVY GREEK CROSSaTHIN SALTIREaLIGHT SALTIREaMEDIUM SALTIREaBOLD SALTIREaHEAVY SALTIRE
aVERY HEAVY SALTIREaEXTREMELY HEAVY SALTIREaLIGHT FIVE SPOKED ASTERISKaMEDIUM FIVE SPOKED ASTERISK
aBOLD FIVE SPOKED ASTERISKaHEAVY FIVE SPOKED ASTERISKaVERY HEAVY FIVE SPOKED ASTERISK
aEXTREMELY HEAVY FIVE SPOKED ASTERISKaLIGHT SIX SPOKED ASTERISKaMEDIUM SIX SPOKED ASTERISK
aBOLD SIX SPOKED ASTERISKaHEAVY SIX SPOKED ASTERISKaVERY HEAVY SIX SPOKED ASTERISK
aEXTREMELY HEAVY SIX SPOKED ASTERISKaLIGHT EIGHT SPOKED ASTERISKaMEDIUM EIGHT SPOKED ASTERISK
aBOLD EIGHT SPOKED ASTERISKaHEAVY EIGHT SPOKED ASTERISKaVERY HEAVY EIGHT SPOKED ASTERISK
aLIGHT THREE POINTED BLACK STARaMEDIUM THREE POINTED BLACK STARaTHREE POINTED BLACK STAR
aMEDIUM THREE POINTED PINWHEEL STARaLIGHT FOUR POINTED BLACK STARaMEDIUM FOUR POINTED BLACK STAR
aFOUR POINTED BLACK STARaMEDIUM FOUR POINTED PINWHEEL STAR
aREVERSE LIGHT FOUR POINTED PINWHEEL STARaLIGHT FIVE POINTED BLACK STAR
aHEAVY FIVE POINTED BLACK STARaMEDIUM SIX POINTED BLACK STARaHEAVY SIX POINTED BLACK STAR
aSIX POINTED PINWHEEL STARaMEDIUM EIGHT POINTED BLACK STARaHEAVY EIGHT POINTED BLACK STAR
aVERY HEAVY EIGHT POINTED BLACK STARaHEAVY EIGHT POINTED PINWHEEL STAR
aLIGHT TWELVE POINTED BLACK STARaHEAVY TWELVE POINTED BLACK STARdPINWHEEL STARaCIRCLED TRIANGLE
aNEGATIVE CIRCLED TRIANGLEaCIRCLED SQUAREaNEGATIVE CIRCLED SQUARE:1F7E0aLARGE ORANGE CIRCLE
bYELLOW CIRCLEbGREEN CIRCLEbPURPLE CIRCLEbBROWN CIRCLEbRED SQUAREbBLUE SQUAREbORANGE SQUARE
bYELLOW SQUAREbGREEN SQUAREbPURPLE SQUAREbBROWN SQUARE:1F7F0aHEAVY EQUALS SIGN:1F800
aLEFTWARDS ARROW WITH SMALL TRIANGLE ARROWHEADaUPWARDS ARROW WITH SMALL TRIANGLE ARROWHEAD
aRIGHTWARDS ARROW WITH SMALL TRIANGLE ARROWHEADaDOWNWARDS ARROW WITH SMALL TRIANGLE ARROWHEAD
aLEFTWARDS ARROW WITH MEDIUM TRIANGLE ARROWHEADaUPWARDS ARROW WITH MEDIUM TRIANGLE ARROWHEAD
aRIGHTWARDS ARROW WITH MEDIUM TRIANGLE ARROWHEADaDOWNWARDS ARROW WITH MEDIUM TRIANGLE ARROWHEAD
aLEFTWARDS ARROW WITH LARGE TRIANGLE ARROWHEADaUPWARDS ARROW WITH LARGE TRIANGLE ARROWHEAD
aRIGHTWARDS ARROW WITH LARGE TRIANGLE ARROWHEADaDOWNWARDS ARROW WITH LARGE TRIANGLE ARROWHEAD
:1F810aLEFTWARDS ARROW WITH SMALL EQUILATERAL ARROWHEAD
aUPWARDS ARROW WITH SMALL EQUILATERAL ARROWHEADaRIGHTWARDS ARROW WITH SMALL EQUILATERAL ARROWHEAD
aDOWNWARDS ARROW WITH SMALL EQUILATERAL ARROWHEADaLEFTWARDS ARROW WITH EQUILATERAL ARROWHEAD
aUPWARDS ARROW WITH EQUILATERAL ARROWHEADaRIGHTWARDS ARROW WITH EQUILATERAL ARROWHEAD
aDOWNWARDS ARROW WITH EQUILATERAL ARROWHEADaHEAVY LEFTWARDS ARROW WITH EQUILATERAL ARROWHEAD
bUPWARDS ARROW WITH EQUILATERAL ARROWHEADbRIGHTWARDS ARROW WITH EQUILATERAL ARROWHEAD
bDOWNWARDS ARROW WITH EQUILATERAL ARROWHEADbLEFTWARDS ARROW WITH LARGE EQUILATERAL ARROWHEAD
bUPWARDS ARROW WITH LARGE EQUILATERAL ARROWHEADbRIGHTWARDS ARROW WITH LARGE EQUILATERAL ARROWHEAD
bDOWNWARDS ARROW WITH LARGE EQUILATERAL ARROWHEAD
aLEFTWARDS TRIANGLE-HEADED ARROW WITH NARROW SHAFTaUPWARDS TRIANGLE-HEADED ARROW WITH NARROW SHAFT
aRIGHTWARDS TRIANGLE-HEADED ARROW WITH NARROW SHAFT
aDOWNWARDS TRIANGLE-HEADED ARROW WITH NARROW SHAFT
aLEFTWARDS TRIANGLE-HEADED ARROW WITH MEDIUM SHAFTaUPWARDS TRIANGLE-HEADED ARROW WITH MEDIUM SHAFT
aRIGHTWARDS TRIANGLE-HEADED ARROW WITH MEDIUM SHAFT
aDOWNWARDS TRIANGLE-HEADED ARROW WITH MEDIUM SHAFTaLEFTWARDS TRIANGLE-HEADED ARROW WITH BOLD SHAFT
aUPWARDS TRIANGLE-HEADED ARROW WITH BOLD SHAFTaRIGHTWARDS TRIANGLE-HEADED ARROW WITH BOLD SHAFT
aDOWNWARDS TRIANGLE-HEADED ARROW WITH BOLD SHAFTaLEFTWARDS TRIANGLE-HEADED ARROW WITH HEAVY SHAFT
aUPWARDS TRIANGLE-HEADED ARROW WITH HEAVY SHAFTaRIGHTWARDS TRIANGLE-HEADED ARROW WITH HEAVY SHAFT
aDOWNWARDS TRIANGLE-HEADED ARROW WITH HEAVY SHAFT
aLEFTWARDS TRIANGLE-HEADED ARROW WITH VERY HEAVY SHAFT
aUPWARDS TRIANGLE-HEADED ARROW WITH VERY HEAVY SHAFT
aRIGHTWARDS TRIANGLE-HEADED ARROW WITH VERY HEAVY SHAFT
aDOWNWARDS TRIANGLE-HEADED ARROW WITH VERY HEAVY SHAFTaLEFTWARDS FINGER-POST ARROW
aUPWARDS FINGER-POST ARROWaRIGHTWARDS FINGER-POST ARROWaDOWNWARDS FINGER-POST ARROW
aLEFTWARDS SQUARED ARROWaUPWARDS SQUARED ARROWaRIGHTWARDS SQUARED ARROWaDOWNWARDS SQUARED ARROW
aLEFTWARDS COMPRESSED ARROWaUPWARDS COMPRESSED ARROWaRIGHTWARDS COMPRESSED ARROW
aDOWNWARDS COMPRESSED ARROWaLEFTWARDS HEAVY COMPRESSED ARROWaUPWARDS HEAVY COMPRESSED ARROW
aRIGHTWARDS HEAVY COMPRESSED ARROWaDOWNWARDS HEAVY COMPRESSED ARROWaLEFTWARDS HEAVY ARROW
aUPWARDS HEAVY ARROWaRIGHTWARDS HEAVY ARROWaDOWNWARDS HEAVY ARROW:1F850aLEFTWARDS SANS-SERIF ARROW
aUPWARDS SANS-SERIF ARROWaRIGHTWARDS SANS-SERIF ARROWaDOWNWARDS SANS-SERIF ARROW
aNORTH WEST SANS-SERIF ARROWbEAST SANS-SERIF ARROWaSOUTH EAST SANS-SERIF ARROW
bWEST SANS-SERIF ARROWaLEFT RIGHT SANS-SERIF ARROWaUP DOWN SANS-SERIF ARROW:1F860
aWIDE-HEADED LEFTWARDS LIGHT BARB ARROWbUPWARDS LIGHT BARB ARROWbRIGHTWARDS LIGHT BARB ARROW
bDOWNWARDS LIGHT BARB ARROWbNORTH WEST LIGHT BARB ARROWcEAST LIGHT BARB ARROW
bSOUTH EAST LIGHT BARB ARROWcWEST LIGHT BARB ARROWbLEFTWARDS BARB ARROWbUPWARDS BARB ARROW
bRIGHTWARDS BARB ARROWbDOWNWARDS BARB ARROWbNORTH WEST BARB ARROWcEAST BARB ARROW
bSOUTH EAST BARB ARROWcWEST BARB ARROWbLEFTWARDS MEDIUM BARB ARROWbUPWARDS MEDIUM BARB ARROW
bRIGHTWARDS MEDIUM BARB ARROWbDOWNWARDS MEDIUM BARB ARROWbNORTH WEST MEDIUM BARB ARROW
cEAST MEDIUM BARB ARROWbSOUTH EAST MEDIUM BARB ARROWcWEST MEDIUM BARB ARROW
bLEFTWARDS HEAVY BARB ARROWbUPWARDS HEAVY BARB ARROWbRIGHTWARDS HEAVY BARB ARROW
bDOWNWARDS HEAVY BARB ARROWbNORTH WEST HEAVY BARB ARROWcEAST HEAVY BARB ARROW
bSOUTH EAST HEAVY BARB ARROWcWEST HEAVY BARB ARROWbLEFTWARDS VERY HEAVY BARB ARROW
bUPWARDS VERY HEAVY BARB ARROWbRIGHTWARDS VERY HEAVY BARB ARROWbDOWNWARDS VERY HEAVY BARB ARROW
bNORTH WEST VERY HEAVY BARB ARROWcEAST VERY HEAVY BARB ARROWbSOUTH EAST VERY HEAVY BARB ARROW
cWEST VERY HEAVY BARB ARROW:1F890aLEFTWARDS TRIANGLE ARROWHEADaUPWARDS TRIANGLE ARROWHEAD
aRIGHTWARDS TRIANGLE ARROWHEADaDOWNWARDS TRIANGLE ARROWHEAD
aLEFTWARDS WHITE ARROW WITHIN TRIANGLE ARROWHEADaUPWARDS WHITE ARROW WITHIN TRIANGLE ARROWHEAD
aRIGHTWARDS WHITE ARROW WITHIN TRIANGLE ARROWHEADaDOWNWARDS WHITE ARROW WITHIN TRIANGLE ARROWHEAD
aLEFTWARDS ARROW WITH NOTCHED TAILaUPWARDS ARROW WITH NOTCHED TAIL
aRIGHTWARDS ARROW WITH NOTCHED TAILaDOWNWARDS ARROW WITH NOTCHED TAILaHEAVY ARROW SHAFT WIDTH ONE
eTWO THIRDSeONE HALFfTHIRDaLEFTWARDS BOTTOM-SHADED WHITE ARROW
aRIGHTWARDS BOTTOM SHADED WHITE ARROWaLEFTWARDS TOP SHADED WHITE ARROW
aRIGHTWARDS TOP SHADED WHITE ARROWaLEFTWARDS LEFT-SHADED WHITE ARROW
aRIGHTWARDS RIGHT-SHADED WHITE ARROWaLEFTWARDS RIGHT-SHADED WHITE ARROW
aRIGHTWARDS LEFT-SHADED WHITE ARROWaLEFTWARDS BACK-TILTED SHADOWED WHITE ARROW
aRIGHTWARDS BACK-TILTED SHADOWED WHITE ARROWaLEFTWARDS FRONT-TILTED SHADOWED WHITE ARROW
aRIGHTWARDS FRONT-TILTED SHADOWED WHITE ARROWaWHITE ARROW SHAFT WIDTH ONEeTWO THIRDS:1F8B0
aARROW POINTING UPWARDS THEN NORTH WESTcRIGHTWARDS THEN CURVING SOUTH WEST:1F900
aCIRCLED CROSS FORMEE WITH FOUR DOTSeTWO DOTScFORMEEaLEFT HALF CIRCLE WITH FOUR DOTSeTHREE DOTS
eTWO DOTSeDOTcCIRCLEaDOWNWARD FACING HOOKcNOTCHED HOOKcHOOK WITH DOTcNOTCHED HOOK WITH DOT
aPINCHED FINGERSaWHITE HEARTaBROWN HEARTaPINCHING HANDaZIPPER-MOUTH FACEaMONEY-MOUTH FACE
aFACE WITH THERMOMETERaNERD FACEaTHINKING FACEaFACE WITH HEAD-BANDAGEaROBOT FACEaHUGGING FACE
aSIGN OF THE HORNSaCALL ME HANDaRAISED BACK OF HANDaLEFT-FACING FISTaRIGHT-FACING FISTaHANDSHAKE
aHAND WITH INDEX AND MIDDLE FINGERS CROSSEDaI LOVE YOU HAND SIGNaFACE WITH COWBOY HATaCLOWN FACE
aNAUSEATED FACEaROLLING ON THE FLOOR LAUGHINGaDROOLING FACEaLYING FACEaFACE PALMaSNEEZING FACE
aFACE WITH ONE EYEBROW RAISEDaGRINNING FACE WITH STAR EYESdONE LARGE AND ONE SMALL EYE
aFACE WITH FINGER COVERING CLOSED LIPSaSERIOUS FACE WITH SYMBOLS COVERING MOUTH
aSMILING FACE WITH SMILING EYES AND HAND COVERING MOUTHaFACE WITH OPEN MOUTH VOMITING
aSHOCKED FACE WITH EXPLODING HEADaPREGNANT WOMANaBREAST-FEEDINGaPALMS UP TOGETHERaSELFIEaPRINCE
aMAN IN TUXEDOaMOTHER CHRISTMASaSHRUGaPERSON DOING CARTWHEELaJUGGLINGaFENCERaMODERN PENTATHLON
aWRESTLERSaWATER POLOaHANDBALLaDIVING MASKaWILTED FLOWERaDRUM WITH DRUMSTICKSaCLINKING GLASSES
aTUMBLER GLASSaSPOONaGOAL NETaRIFLEaFIRST PLACE MEDALaSECOND PLACE MEDALaTHIRD PLACE MEDAL
aBOXING GLOVEaMARTIAL ARTS UNIFORMaCURLING STONEaLACROSSE STICK AND BALLaSOFTBALLaFLYING DISC
aCROISSANTaAVOCADOaCUCUMBERaBACONaPOTATOaCARROTaBAGUETTE BREADaGREEN SALADaSHALLOW PAN OF FOOD
aSTUFFED FLATBREADaEGGaGLASS OF MILKaPEANUTSaKIWIFRUITaPANCAKESaDUMPLINGaFORTUNE COOKIE
aTAKEOUT BOXaCHOPSTICKSaBOWL WITH SPOONaCUP WITH STRAWaCOCONUTaBROCCOLIaPIEaPRETZELaCUT OF MEAT
aSANDWICHaCANNED FOODaLEAFY GREENaMANGOaMOON CAKEaBAGEL
aSMILING FACE WITH SMILING EYES AND THREE HEARTSaYAWNING FACEaSMILING FACE WITH TEAR
aFACE WITH PARTY HORN AND PARTY HATcUNEVEN EYES AND WAVY MOUTHaOVERHEATED FACEaFREEZING FACEaNINJA
aDISGUISED FACEaFACE HOLDING BACK TEARSbWITH PLEADING EYESaSARIaLAB COATaGOGGLESaHIKING BOOT
aFLAT SHOEaCRABaLION FACEaSCORPIONaTURKEYaUNICORN FACEaEAGLEaDUCKaBATaSHARKaOWLaFOX FACEaBUTTERFLY
aDEERaGORILLAaLIZARDaRHINOCEROSaSHRIMPaSQUIDaGIRAFFE FACEaZEBRA FACEaHEDGEHOGaSAUROPODaT-REX
aCRICKETaKANGAROOaLLAMAaPEACOCKaHIPPOPOTAMUSaPARROTaRACCOONaLOBSTERaMOSQUITOaMICROBEaBADGERaSWAN
aMAMMOTHaDODOaSLOTHaOTTERaORANGUTANaSKUNKaFLAMINGOaOYSTERaBEAVERaBISONaSEALaGUIDE DOGaPROBING CANE
aEMOJI COMPONENT RED HAIRcCURLY HAIRcBALDcWHITE HAIRaBONEaLEGaFOOTaTOOTHaSUPERHEROaSUPERVILLAIN
aSAFETY VESTaEAR WITH HEARING AIDaMOTORIZED WHEELCHAIRaMANUAL WHEELCHAIRaMECHANICAL ARMbLEG
aCHEESE WEDGEaCUPCAKEaSALT SHAKERaBEVERAGE BOXaGARLICaONIONaFALAFELaWAFFLEaBUTTERaMATE DRINK
aICE CUBEaBUBBLE TEAaTROLLaSTANDING PERSONaKNEELING PERSONaDEAF PERSONaFACE WITH MONOCLEaADULT
aCHILDaOLDER ADULTaBEARDED PERSONaPERSON WITH HEADSCARFbIN STEAMY ROOMbCLIMBINGbIN LOTUS POSITION
aMAGEaFAIRYaVAMPIREaMERPERSONaELFaGENIEaZOMBIEaBRAINaORANGE HEARTaBILLED CAPaSCARFaGLOVESaCOAT
aSOCKSaRED GIFT ENVELOPEaFIRECRACKERaJIGSAW PUZZLE PIECEaTEST TUBEaPETRI DISHaDNA DOUBLE HELIX
aCOMPASSaABACUSaFIRE EXTINGUISHERaTOOLBOXaBRICKaMAGNETaLUGGAGEaLOTION BOTTLEaSPOOL OF THREAD
aBALL OF YARNaSAFETY PINaTEDDY BEARaBROOMaBASKETaROLL OF PAPERaBAR OF SOAPaSPONGEaRECEIPT
aNAZAR AMULETaNEUTRAL CHESS KINGcQUEENcROOKcBISHOPcKNIGHTcPAWN
aWHITE CHESS KNIGHT ROTATED FORTY-FIVE DEGREESaBLACK CHESS KNIGHT ROTATED FORTY-FIVE DEGREES
aNEUTRAL CHESS KNIGHT ROTATED FORTY-FIVE DEGREESaWHITE CHESS KING ROTATED NINETY DEGREES
cQUEEN ROTATED NINETY DEGREEScROOK ROTATED NINETY DEGREEScBISHOP ROTATED NINETY DEGREES
cKNIGHT ROTATED NINETY DEGREEScPAWN ROTATED NINETY DEGREESaBLACK CHESS KING ROTATED NINETY DEGREES
cQUEEN ROTATED NINETY DEGREEScROOK ROTATED NINETY DEGREEScBISHOP ROTATED NINETY DEGREES
cKNIGHT ROTATED NINETY DEGREEScPAWN ROTATED NINETY DEGREES
aNEUTRAL CHESS KING ROTATED NINETY DEGREEScQUEEN ROTATED NINETY DEGREES
cROOK ROTATED NINETY DEGREEScBISHOP ROTATED NINETY DEGREEScKNIGHT ROTATED NINETY DEGREES
cPAWN ROTATED NINETY DEGREESaWHITE CHESS KNIGHT ROTATED ONE HUNDRED THIRTY-FIVE DEGREES
aBLACK CHESS KNIGHT ROTATED ONE HUNDRED THIRTY-FIVE DEGREES
aNEUTRAL CHESS KNIGHT ROTATED ONE HUNDRED THIRTY-FIVE DEGREESaWHITE CHESS TURNED KINGdQUEENdROOK
dBISHOPdKNIGHTdPAWNaBLACK CHESS TURNED KINGdQUEENdROOKdBISHOPdKNIGHTdPAWN
aNEUTRAL CHESS TURNED KINGdQUEENdROOKdBISHOPdKNIGHTdPAWN
aWHITE CHESS KNIGHT ROTATED TWO HUNDRED TWENTY-FIVE DEGREES
aBLACK CHESS KNIGHT ROTATED TWO HUNDRED TWENTY-FIVE DEGREES
aNEUTRAL CHESS KNIGHT ROTATED TWO HUNDRED TWENTY-FIVE DEGREES
aWHITE CHESS KING ROTATED TWO HUNDRED SEVENTY DEGREEScQUEEN ROTATED TWO HUNDRED SEVENTY DEGREES
cROOK ROTATED TWO HUNDRED SEVENTY DEGREEScBISHOP ROTATED TWO HUNDRED SEVENTY DEGREES
cKNIGHT ROTATED TWO HUNDRED SEVENTY DEGREEScPAWN ROTATED TWO HUNDRED SEVENTY DEGREES
aBLACK CHESS KING ROTATED TWO HUNDRED SEVENTY DEGREEScQUEEN ROTATED TWO HUNDRED SEVENTY DEGREES
cROOK ROTATED TWO HUNDRED SEVENTY DEGREEScBISHOP ROTATED TWO HUNDRED SEVENTY DEGREES
cKNIGHT ROTATED TWO HUNDRED SEVENTY DEGREEScPAWN ROTATED TWO HUNDRED SEVENTY DEGREES
aNEUTRAL CHESS KING ROTATED TWO HUNDRED SEVENTY DEGREEScQUEEN ROTATED TWO HUNDRED SEVENTY DEGREES
cROOK ROTATED TWO HUNDRED SEVENTY DEGREEScBISHOP ROTATED TWO HUNDRED SEVENTY DEGREES
cKNIGHT ROTATED TWO HUNDRED SEVENTY DEGREEScPAWN ROTATED TWO HUNDRED SEVENTY DEGREES
aWHITE CHESS KNIGHT ROTATED THREE HUNDRED FIFTEEN DEGREES
aBLACK CHESS KNIGHT ROTATED THREE HUNDRED FIFTEEN DEGREES
aNEUTRAL CHESS KNIGHT ROTATED THREE HUNDRED FIFTEEN DEGREESaWHITE CHESS EQUIHOPPER
aBLACK CHESS EQUIHOPPERaNEUTRAL CHESS EQUIHOPPERaWHITE CHESS EQUIHOPPER ROTATED NINETY DEGREES
aBLACK CHESS EQUIHOPPER ROTATED NINETY DEGREESaNEUTRAL CHESS EQUIHOPPER ROTATED NINETY DEGREES
aWHITE CHESS KNIGHT-QUEENcKNIGHT-ROOKcKNIGHT-BISHOPaBLACK CHESS KNIGHT-QUEENcKNIGHT-ROOK
cKNIGHT-BISHOP:1FA60aXIANGQI RED GENERALcMANDARINcELEPHANTcHORSEcCHARIOTcCANNONcSOLDIER
bBLACK GENERALcMANDARINcELEPHANTcHORSEcCHARIOTcCANNONcSOLDIER:1FA70aBALLET SHOES
aONE-PIECE SWIMSUITaBRIEFSaSHORTSaTHONG SANDAL:1FA78aDROP OF BLOODaADHESIVE BANDAGEaSTETHOSCOPE
aX-RAYaCRUTCH:1FA80aYO-YOaKITEaPARACHUTEaBOOMERANGaMAGIC WANDaPINATAaNESTING DOLLS:1FA90
aRINGED PLANETaCHAIRaRAZORaAXEaDIYA LAMPaBANJOaMILITARY HELMETaACCORDIONaLONG DRUMaCOIN
aCARPENTRY SAWaSCREWDRIVERaLADDERaHOOKaMIRRORaWINDOWaPLUNGERaSEWING NEEDLEaKNOTaBUCKETaMOUSE TRAP
aTOOTHBRUSHaHEADSTONEaPLACARDaROCKaMIRROR BALLaIDENTIFICATION CARDaLOW BATTERYaHAMSA:1FAB0aFLY
aWORMaBEETLEaCOCKROACHaPOTTED PLANTaWOODaFEATHERaLOTUSaCORALaEMPTY NESTaNEST WITH EGGS:1FAC0
aANATOMICAL HEARTaLUNGSaPEOPLE HUGGINGaPREGNANT MANbPERSONaPERSON WITH CROWN:1FAD0aBLUEBERRIES
aBELL PEPPERaOLIVEaFLATBREADaTAMALEaFONDUEaTEAPOTaPOURING LIQUIDaBEANSaJAR:1FAE0aMELTING FACE
aSALUTING FACEaFACE WITH OPEN EYES AND HAND OVER MOUTHcPEEKING EYEcDIAGONAL MOUTHaDOTTED LINE FACE
aBITING LIPaBUBBLES:1FAF0aHAND WITH INDEX FINGER AND THUMB CROSSEDaRIGHTWARDS HANDaLEFTWARDS HAND
aPALM DOWN HANDbUP HANDaINDEX POINTING AT THE VIEWERaHEART HANDS:1FB00aBLOCK SEXTANT-1bSEXTANT-2
bSEXTANT-12bSEXTANT-3bSEXTANT-13bSEXTANT-23bSEXTANT-123bSEXTANT-4bSEXTANT-14bSEXTANT-24
bSEXTANT-124bSEXTANT-34bSEXTANT-134bSEXTANT-234bSEXTANT-1234bSEXTANT-5bSEXTANT-15bSEXTANT-25
bSEXTANT-125bSEXTANT-35bSEXTANT-235bSEXTANT-1235bSEXTANT-45bSEXTANT-145bSEXTANT-245bSEXTANT-1245
bSEXTANT-345bSEXTANT-1345bSEXTANT-2345bSEXTANT-12345bSEXTANT-6bSEXTANT-16bSEXTANT-26bSEXTANT-126
bSEXTANT-36bSEXTANT-136bSEXTANT-236bSEXTANT-1236bSEXTANT-46bSEXTANT-146bSEXTANT-1246bSEXTANT-346
bSEXTANT-1346bSEXTANT-2346bSEXTANT-12346bSEXTANT-56bSEXTANT-156bSEXTANT-256bSEXTANT-1256
bSEXTANT-356bSEXTANT-1356bSEXTANT-2356bSEXTANT-12356bSEXTANT-456bSEXTANT-1456bSEXTANT-2456
bSEXTANT-12456bSEXTANT-3456bSEXTANT-13456bSEXTANT-23456
aLOWER LEFT BLOCK DIAGONAL LOWER MIDDLE LEFT TO LOWER CENTREjRIGHT
eUPPER MIDDLE LEFT TO LOWER CENTREjRIGHTfLEFT TO LOWER CENTRE
bRIGHT BLOCK DIAGONAL UPPER MIDDLE LEFT TO UPPER CENTREjRIGHTeLOWER MIDDLE LEFT TO UPPER CENTRE
jRIGHTfLEFT TO UPPER CENTREfMIDDLE LEFT TO UPPER MIDDLE RIGHTfCENTRE TO LOWER MIDDLE RIGHT
fLEFT TO LOWER MIDDLE RIGHTfCENTRE TO UPPER MIDDLE RIGHTfLEFT TO UPPER MIDDLE RIGHT
fCENTRE TO UPPER RIGHTbLEFT BLOCK DIAGONAL UPPER CENTRE TO UPPER MIDDLE RIGHT
fLEFT TO UPPER MIDDLE RIGHTfCENTRE TO LOWER MIDDLE RIGHTfLEFT TO LOWER MIDDLE RIGHT
fCENTRE TO LOWER RIGHTfMIDDLE LEFT TO LOWER MIDDLE RIGHT
aUPPER RIGHT BLOCK DIAGONAL LOWER MIDDLE LEFT TO LOWER CENTREjRIGHT
eUPPER MIDDLE LEFT TO LOWER CENTREjRIGHTfLEFT TO LOWER CENTRE
bLEFT BLOCK DIAGONAL UPPER MIDDLE LEFT TO UPPER CENTREjRIGHTeLOWER MIDDLE LEFT TO UPPER CENTRE
jRIGHTfLEFT TO UPPER CENTREfMIDDLE LEFT TO UPPER MIDDLE RIGHTfCENTRE TO LOWER MIDDLE RIGHT
fLEFT TO LOWER MIDDLE RIGHTfCENTRE TO UPPER MIDDLE RIGHTfLEFT TO UPPER MIDDLE RIGHT
fCENTRE TO UPPER RIGHTbRIGHT BLOCK DIAGONAL UPPER CENTRE TO UPPER MIDDLE RIGHT
fLEFT TO UPPER MIDDLE RIGHTfCENTRE TO LOWER MIDDLE RIGHTfLEFT TO LOWER MIDDLE RIGHT
fCENTRE TO LOWER RIGHTfMIDDLE LEFT TO LOWER MIDDLE RIGHT
bAND RIGHT AND LOWER TRIANGULAR THREE QUARTERS BLOCK
aLEFT AND LOWER AND RIGHT TRIANGULAR THREE QUARTERS BLOCK
aUPPER AND LEFT AND LOWER TRIANGULAR THREE QUARTERS BLOCK
aLEFT AND UPPER AND RIGHT TRIANGULAR THREE QUARTERS BLOCKbTRIANGULAR ONE QUARTER BLOCK
aUPPER TRIANGULAR ONE QUARTER BLOCKaRIGHT TRIANGULAR ONE QUARTER BLOCK
aLOWER TRIANGULAR ONE QUARTER BLOCKaVERTICAL ONE EIGHTH BLOCK-2dBLOCK-3dBLOCK-4dBLOCK-5dBLOCK-6
dBLOCK-7aHORIZONTAL ONE EIGHTH BLOCK-2dBLOCK-3dBLOCK-4dBLOCK-5dBLOCK-6dBLOCK-7
aLEFT AND LOWER ONE EIGHTH BLOCKcUPPER ONE EIGHTH BLOCKaRIGHT AND UPPER ONE EIGHTH BLOCK
cLOWER ONE EIGHTH BLOCKaUPPER AND LOWER ONE EIGHTH BLOCKaHORIZONTAL ONE EIGHTH BLOCK-1358
aUPPER ONE QUARTER BLOCKbTHREE EIGHTHS BLOCKbFIVE EIGHTHS BLOCKbTHREE QUARTERS BLOCK
bSEVEN EIGHTHS BLOCKaRIGHT ONE QUARTER BLOCKbTHREE EIGHTHS BLOCKbFIVE EIGHTHS BLOCK
bTHREE QUARTERS BLOCKbSEVEN EIGHTHS BLOCKaLEFT HALF MEDIUM SHADEaRIGHT HALF MEDIUM SHADE
aUPPER HALF MEDIUM SHADEaLOWER HALF MEDIUM SHADEaINVERSE MEDIUM SHADE
aUPPER HALF BLOCK AND LOWER HALF INVERSE MEDIUM SHADEcINVERSE MEDIUM SHADE AND LOWER HALF BLOCK
:1FB94aLEFT HALF INVERSE MEDIUM SHADE AND RIGHT HALF BLOCKaCHECKER BOARD FILL
aINVERSE CHECKER BOARD FILLaHEAVY HORIZONTAL FILLaUPPER LEFT TO LOWER RIGHT FILL
bRIGHT TO LOWER LEFT FILLbAND LOWER TRIANGULAR HALF BLOCKaLEFT AND RIGHT TRIANGULAR HALF BLOCK
aUPPER LEFT TRIANGULAR MEDIUM SHADEbRIGHT TRIANGULAR MEDIUM SHADE
aLOWER RIGHT TRIANGULAR MEDIUM SHADEbLEFT TRIANGULAR MEDIUM SHADE
aBOX DRAWINGS LIGHT DIAGONAL UPPER CENTRE TO MIDDLE LEFTiRIGHTeMIDDLE LEFT TO LOWER CENTRE
fRIGHT TO LOWER CENTREeUPPER CENTRE TO MIDDLE LEFT TO LOWER CENTREiRIGHT TO LOWER CENTRE
eMIDDLE LEFT TO LOWER CENTRE TO MIDDLE RIGHThUPPER CENTRE TO MIDDLE RIGHT
eUPPER CENTRE TO MIDDLE LEFT AND MIDDLE RIGHT TO LOWER CENTRE
iRIGHT AND MIDDLE LEFT TO LOWER CENTREjTO LOWER CENTRE TO MIDDLE LEFT
iLEFT TO LOWER CENTRE TO MIDDLE RIGHTeMIDDLE LEFT TO UPPER CENTRE TO MIDDLE RIGHT TO LOWER CENTRE
fRIGHT TO UPPER CENTRE TO MIDDLE LEFT TO LOWER CENTREeDIAMONDdHORIZONTAL WITH VERTICAL STROKE
aARROWHEAD-SHAPED POINTERaINVERSE CHECK MARKaLEFT HALF RUNNING MANaRIGHT HALF RUNNING MAN
aINVERSE DOWNWARDS ARROW WITH TIP LEFTWARDSaLEFTWARDS ARROW AND UPPER AND LOWER ONE EIGHTH BLOCK
aRIGHTWARDS ARROW AND UPPER AND LOWER ONE EIGHTH BLOCKaDOWNWARDS ARROW AND RIGHT ONE EIGHTH BLOCK
aUPWARDS ARROW AND RIGHT ONE EIGHTH BLOCKaLEFT HALF FOLDERaRIGHT HALF FOLDERaVOIDED GREEK CROSS
aRIGHT OPEN SQUARED DOTaNEGATIVE DIAGONAL CROSScMIDDLE RIGHT TO LOWER CENTREcDIAMOND
aWHITE HEAVY SALTIRE WITH ROUNDED CORNERSaLEFT THIRD WHITE RIGHT POINTING INDEX
aMIDDLE THIRD WHITE RIGHT POINTING INDEXaRIGHT THIRD WHITE RIGHT POINTING INDEX
aNEGATIVE SQUARED QUESTION MARKaSTICK FIGUREcWITH ARMS RAISEDcLEANING LEFTdRIGHTcWITH DRESS
aWHITE UP-POINTING CHEVRON:1FBF0aSEGMENTED DIGIT ZEROcONEcTWOcTHREEcFOURcFIVEcSIXcSEVENcEIGHTcNINE
:E0001aLANGUAGE TAG:E0020aTAG SPACEbEXCLAMATION MARKbQUOTATION MARKbNUMBER SIGNbDOLLAR SIGN
bPERCENT SIGNbAMPERSANDbAPOSTROPHEbLEFT PARENTHESISbRIGHT PARENTHESISbASTERISKbPLUS SIGNbCOMMA
bHYPHEN-MINUSbFULL STOPbSOLIDUSbDIGIT ZEROcONEcTWOcTHREEcFOURcFIVEcSIXcSEVENcEIGHTcNINEbCOLON
bSEMICOLONbLESS-THAN SIGNbEQUALS SIGNbGREATER-THAN SIGNbQUESTION MARKbCOMMERCIAL AT
bLATIN CAPITAL LETTER AeBeCeDeEeFeGeHeIeJeKeLeMeNeOePeQeReSeTeUeVeWeXeYeZbLEFT SQUARE BRACKET
bREVERSE SOLIDUSbRIGHT SQUARE BRACKETbCIRCUMFLEX ACCENTbLOW LINEbGRAVE ACCENTbLATIN SMALL LETTER A
eBeCeDeEeFeGeHeIeJeKeLeMeNeOePeQeReSeTeUeVeWeXeYeZbLEFT CURLY BRACKETbVERTICAL LINE
bRIGHT CURLY BRACKETbTILDEaCANCEL TAG:E0100aVARIATION SELECTOR-17bSELECTOR-18bSELECTOR-19
bSELECTOR-20bSELECTOR-21bSELECTOR-22bSELECTOR-23bSELECTOR-24bSELECTOR-25bSELECTOR-26bSELECTOR-27
bSELECTOR-28bSELECTOR-29bSELECTOR-30bSELECTOR-31bSELECTOR-32bSELECTOR-33bSELECTOR-34bSELECTOR-35
bSELECTOR-36bSELECTOR-37bSELECTOR-38bSELECTOR-39bSELECTOR-40bSELECTOR-41bSELECTOR-42bSELECTOR-43
bSELECTOR-44bSELECTOR-45bSELECTOR-46bSELECTOR-47bSELECTOR-48bSELECTOR-49bSELECTOR-50bSELECTOR-51
bSELECTOR-52bSELECTOR-53bSELECTOR-54bSELECTOR-55bSELECTOR-56bSELECTOR-57bSELECTOR-58bSELECTOR-59
bSELECTOR-60bSELECTOR-61bSELECTOR-62bSELECTOR-63bSELECTOR-64bSELECTOR-65bSELECTOR-66bSELECTOR-67
bSELECTOR-68bSELECTOR-69bSELECTOR-70bSELECTOR-71bSELECTOR-72bSELECTOR-73bSELECTOR-74bSELECTOR-75
bSELECTOR-76bSELECTOR-77bSELECTOR-78bSELECTOR-79bSELECTOR-80bSELECTOR-81bSELECTOR-82bSELECTOR-83
bSELECTOR-84bSELECTOR-85bSELECTOR-86bSELECTOR-87bSELECTOR-88bSELECTOR-89bSELECTOR-90bSELECTOR-91
bSELECTOR-92bSELECTOR-93bSELECTOR-94bSELECTOR-95bSELECTOR-96bSELECTOR-97bSELECTOR-98bSELECTOR-99
bSELECTOR-100bSELECTOR-101bSELECTOR-102bSELECTOR-103bSELECTOR-104bSELECTOR-105bSELECTOR-106
bSELECTOR-107bSELECTOR-108bSELECTOR-109bSELECTOR-110bSELECTOR-111bSELECTOR-112bSELECTOR-113
bSELECTOR-114bSELECTOR-115bSELECTOR-116bSELECTOR-117bSELECTOR-118bSELECTOR-119bSELECTOR-120
bSELECTOR-121bSELECTOR-122bSELECTOR-123bSELECTOR-124bSELECTOR-125bSELECTOR-126bSELECTOR-127
bSELECTOR-128bSELECTOR-129bSELECTOR-130bSELECTOR-131bSELECTOR-132bSELECTOR-133bSELECTOR-134
bSELECTOR-135bSELECTOR-136bSELECTOR-137bSELECTOR-138bSELECTOR-139bSELECTOR-140bSELECTOR-141
bSELECTOR-142bSELECTOR-143bSELECTOR-144bSELECTOR-145bSELECTOR-146bSELECTOR-147bSELECTOR-148
bSELECTOR-149bSELECTOR-150bSELECTOR-151bSELECTOR-152bSELECTOR-153bSELECTOR-154bSELECTOR-155
bSELECTOR-156bSELECTOR-157bSELECTOR-158bSELECTOR-159bSELECTOR-160bSELECTOR-161bSELECTOR-162
bSELECTOR-163bSELECTOR-164bSELECTOR-165bSELECTOR-166bSELECTOR-167bSELECTOR-168bSELECTOR-169
bSELECTOR-170bSELECTOR-171bSELECTOR-172bSELECTOR-173bSELECTOR-174bSELECTOR-175bSELECTOR-176
bSELECTOR-177bSELECTOR-178bSELECTOR-179bSELECTOR-180bSELECTOR-181bSELECTOR-182bSELECTOR-183
bSELECTOR-184bSELECTOR-185bSELECTOR-186bSELECTOR-187bSELECTOR-188bSELECTOR-189bSELECTOR-190
bSELECTOR-191bSELECTOR-192bSELECTOR-193bSELECTOR-194bSELECTOR-195bSELECTOR-196bSELECTOR-197
bSELECTOR-198bSELECTOR-199bSELECTOR-200bSELECTOR-201bSELECTOR-202bSELECTOR-203bSELECTOR-204
bSELECTOR-205bSELECTOR-206bSELECTOR-207bSELECTOR-208bSELECTOR-209bSELECTOR-210bSELECTOR-211
bSELECTOR-212bSELECTOR-213bSELECTOR-214bSELECTOR-215bSELECTOR-216bSELECTOR-217bSELECTOR-218
bSELECTOR-219bSELECTOR-220bSELECTOR-221bSELECTOR-222bSELECTOR-223bSELECTOR-224bSELECTOR-225
bSELECTOR-226bSELECTOR-227bSELECTOR-228bSELECTOR-229bSELECTOR-230bSELECTOR-231bSELECTOR-232
bSELECTOR-233bSELECTOR-234bSELECTOR-235bSELECTOR-236bSELECTOR-237bSELECTOR-238bSELECTOR-239
bSELECTOR-240bSELECTOR-241bSELECTOR-242bSELECTOR-243bSELECTOR-244bSELECTOR-245bSELECTOR-246
bSELECTOR-247bSELECTOR-248bSELECTOR-249bSELECTOR-250bSELECTOR-251bSELECTOR-252bSELECTOR-253
bSELECTOR-254bSELECTOR-255bSELECTOR-256"

end TicketMigration.CharacterName
