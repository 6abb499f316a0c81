/-!
# Names of characters: East Asia

Kana, radicals, the Yi script and the scripts around them.

## Main definitions

* `eastAsia` is the table.
-/

namespace TicketMigration.CharacterName

/-- The table.  Behind a colon stands the code of a character.  Each name begins with a small
letter, which says how many words it has in common with the name before, and is the name of the
next code. -/
def eastAsia : String :=
  ":3000aIDEOGRAPHIC SPACEbCOMMAbFULL STOPaDITTO MARKaJAPANESE INDUSTRIAL STANDARD SYMBOL
aIDEOGRAPHIC ITERATION MARKbCLOSING MARKbNUMBER ZEROaLEFT ANGLE BRACKETaRIGHT ANGLE BRACKET
aLEFT DOUBLE ANGLE BRACKETaRIGHT DOUBLE ANGLE BRACKETaLEFT CORNER BRACKETaRIGHT CORNER BRACKET
aLEFT WHITE CORNER BRACKETaRIGHT WHITE CORNER BRACKETaLEFT BLACK LENTICULAR BRACKET
aRIGHT BLACK LENTICULAR BRACKETaPOSTAL MARKaGETA MARKaLEFT TORTOISE SHELL BRACKET
aRIGHT TORTOISE SHELL BRACKETaLEFT WHITE LENTICULAR BRACKETaRIGHT WHITE LENTICULAR BRACKET
aLEFT WHITE TORTOISE SHELL BRACKETaRIGHT WHITE TORTOISE SHELL BRACKETaLEFT WHITE SQUARE BRACKET
aRIGHT WHITE SQUARE BRACKETaWAVE DASHaREVERSED DOUBLE PRIME QUOTATION MARK
aDOUBLE PRIME QUOTATION MARKaLOW DOUBLE PRIME QUOTATION MARKaPOSTAL MARK FACEaHANGZHOU NUMERAL ONE
cTWOcTHREEcFOURcFIVEcSIXcSEVENcEIGHTcNINEaIDEOGRAPHIC LEVEL TONE MARKbRISING TONE MARK
bDEPARTING TONE MARKbENTERING TONE MARKaHANGUL SINGLE DOT TONE MARKbDOUBLE DOT TONE MARKaWAVY DASH
aVERTICAL KANA REPEAT MARKdWITH VOICED SOUND MARKdMARK UPPER HALF
dWITH VOICED SOUND MARK UPPER HALFdMARK LOWER HALFaCIRCLED POSTAL MARK
aIDEOGRAPHIC TELEGRAPH LINE FEED SEPARATOR SYMBOLaHANGZHOU NUMERAL TENcTWENTYcTHIRTY
aVERTICAL IDEOGRAPHIC ITERATION MARKaMASU MARKaPART ALTERNATION MARK
aIDEOGRAPHIC VARIATION INDICATORbHALF FILL SPACE:3041aHIRAGANA LETTER SMALL AcAcSMALL IcIcSMALL U
cUcSMALL EcEcSMALL OcOcKAcGAcKIcGIcKUcGUcKEcGEcKOcGOcSAcZAcSIcZIcSUcZUcSEcZEcSOcZOcTAcDAcTIcDI
cSMALL TUcTUcDUcTEcDEcTOcDOcNAcNIcNUcNEcNOcHAcBAcPAcHIcBIcPIcHUcBUcPUcHEcBEcPEcHOcBOcPOcMAcMIcMU
cMEcMOcSMALL YAcYAcSMALL YUcYUcSMALL YOcYOcRAcRIcRUcREcROcSMALL WAcWAcWIcWEcWOcNcVUcSMALL KAdKE
:3099aCOMBINING KATAKANA-HIRAGANA VOICED SOUND MARKcSEMI-VOICED SOUND MARK
aKATAKANA-HIRAGANA VOICED SOUND MARKbSEMI-VOICED SOUND MARKaHIRAGANA ITERATION MARK
bVOICED ITERATION MARKbDIGRAPH YORIaKATAKANA-HIRAGANA DOUBLE HYPHENaKATAKANA LETTER SMALL AcA
cSMALL IcIcSMALL UcUcSMALL EcEcSMALL OcOcKAcGAcKIcGIcKUcGUcKEcGEcKOcGOcSAcZAcSIcZIcSUcZUcSEcZEcSO
cZOcTAcDAcTIcDIcSMALL TUcTUcDUcTEcDEcTOcDOcNAcNIcNUcNEcNOcHAcBAcPAcHIcBIcPIcHUcBUcPUcHEcBEcPEcHO
cBOcPOcMAcMIcMUcMEcMOcSMALL YAcYAcSMALL YUcYUcSMALL YOcYOcRAcRIcRUcREcROcSMALL WAcWAcWIcWEcWOcNcVU
cSMALL KAdKEcVAcVIcVEcVObMIDDLE DOTaKATAKANA-HIRAGANA PROLONGED SOUND MARKaKATAKANA ITERATION MARK
bVOICED ITERATION MARKbDIGRAPH KOTO:3105aBOPOMOFO LETTER BcPcMcFcDcTcNcLcGcKcHcJcQcXcZHcCHcSHcRcZ
cCcScAcOcEcEHcAIcEIcAUcOUcANcENcANGcENGcERcIcUcIUcVcNGcGNcIHcO WITH DOT ABOVEcNN:3131
aHANGUL LETTER KIYEOKcSSANGKIYEOKcKIYEOK-SIOScNIEUNcNIEUN-CIEUCcNIEUN-HIEUHcTIKEUTcSSANGTIKEUT
cRIEULcRIEUL-KIYEOKcRIEUL-MIEUMcRIEUL-PIEUPcRIEUL-SIOScRIEUL-THIEUTHcRIEUL-PHIEUPHcRIEUL-HIEUH
cMIEUMcPIEUPcSSANGPIEUPcPIEUP-SIOScSIOScSSANGSIOScIEUNGcCIEUCcSSANGCIEUCcCHIEUCHcKHIEUKHcTHIEUTH
cPHIEUPHcHIEUHcAcAEcYAcYAEcEOcEcYEOcYEcOcWAcWAEcOEcYOcUcWEOcWEcWIcYUcEUcYIcIbFILLER
bLETTER SSANGNIEUNcNIEUN-TIKEUTcNIEUN-SIOScNIEUN-PANSIOScRIEUL-KIYEOK-SIOScRIEUL-TIKEUT
cRIEUL-PIEUP-SIOScRIEUL-PANSIOScRIEUL-YEORINHIEUHcMIEUM-PIEUPcMIEUM-SIOScMIEUM-PANSIOS
cKAPYEOUNMIEUMcPIEUP-KIYEOKcPIEUP-TIKEUTcPIEUP-SIOS-KIYEOKcPIEUP-SIOS-TIKEUTcPIEUP-CIEUC
cPIEUP-THIEUTHcKAPYEOUNPIEUPcKAPYEOUNSSANGPIEUPcSIOS-KIYEOKcSIOS-NIEUNcSIOS-TIKEUTcSIOS-PIEUP
cSIOS-CIEUCcPANSIOScSSANGIEUNGcYESIEUNGcYESIEUNG-SIOScYESIEUNG-PANSIOScKAPYEOUNPHIEUPHcSSANGHIEUH
cYEORINHIEUHcYO-YAcYO-YAEcYO-IcYU-YEOcYU-YEcYU-IcARAEAcARAEAE:3190
aIDEOGRAPHIC ANNOTATION LINKING MARKcREVERSE MARKcONE MARKcTWO MARKcTHREE MARKcFOUR MARKcTOP MARK
cMIDDLE MARKcBOTTOM MARKcFIRST MARKcSECOND MARKcTHIRD MARKcFOURTH MARKcHEAVEN MARKcEARTH MARK
cMAN MARKaBOPOMOFO LETTER BUcZIcJIcGUcEEcENNcOOcONNcIRcANNcINNcUNNcIMcNGGcAINNcAUNNcAMcOMcONGcINNN
bFINAL LETTER PdTdKdHbLETTER GHcLHcZYbFINAL LETTER GbLETTER GWcKWcOEcAHaCJK STROKE TcWGcXGcBXGcSW
cHZZcHZGcHPcHZWGcSZWGcHZTcHZZPcHPWGcHZWcHZZZcNcHcScPcSPcDcHZcHGcSZcSWZcSTcSGcPDcPZcTNcSZZcSWGcHXWG
cHZZZGcPGcQ:31F0aKATAKANA LETTER SMALL KUdSIdSUdTOdNUdHAdHIdHUdHEdHOdMUdRAdRIdRUdREdRO
aPARENTHESIZED HANGUL KIYEOKcNIEUNcTIKEUTcRIEULcMIEUMcPIEUPcSIOScIEUNGcCIEUCcCHIEUCHcKHIEUKH
cTHIEUTHcPHIEUPHcHIEUHcKIYEOK AcNIEUN AcTIKEUT AcRIEUL AcMIEUM AcPIEUP AcSIOS AcIEUNG AcCIEUC A
cCHIEUCH AcKHIEUKH AcTHIEUTH AcPHIEUPH AcHIEUH AcCIEUC UbKOREAN CHARACTER OJEONdO HU:3220
aPARENTHESIZED IDEOGRAPH ONEcTWOcTHREEcFOURcFIVEcSIXcSEVENcEIGHTcNINEcTENcMOONcFIREcWATERcWOOD
cMETALcEARTHcSUNcSTOCKcHAVEcSOCIETYcNAMEcSPECIALcFINANCIALcCONGRATULATIONcLABORcREPRESENTcCALL
cSTUDYcSUPERVISEcENTERPRISEcRESOURCEcALLIANCEcFESTIVALcRESTcSELFcREACHaCIRCLED IDEOGRAPH QUESTION
cKINDERGARTENcSCHOOLcKOTObNUMBER TEN ON BLACK SQUAREcTWENTY ON BLACK SQUAREcTHIRTY ON BLACK SQUARE
cFORTY ON BLACK SQUAREcFIFTY ON BLACK SQUAREcSIXTY ON BLACK SQUAREcSEVENTY ON BLACK SQUARE
cEIGHTY ON BLACK SQUAREaPARTNERSHIP SIGNaCIRCLED NUMBER TWENTY ONEdTWOdTHREEdFOURdFIVEdSIXdSEVEN
dEIGHTdNINEcTHIRTYdONEdTWOdTHREEdFOURdFIVEbHANGUL KIYEOKcNIEUNcTIKEUTcRIEULcMIEUMcPIEUPcSIOScIEUNG
cCIEUCcCHIEUCHcKHIEUKHcTHIEUTHcPHIEUPHcHIEUHcKIYEOK AcNIEUN AcTIKEUT AcRIEUL AcMIEUM AcPIEUP A
cSIOS AcIEUNG AcCIEUC AcCHIEUCH AcKHIEUKH AcTHIEUTH AcPHIEUPH AcHIEUH AbKOREAN CHARACTER CHAMKO
dJUEUIbHANGUL IEUNG UaKOREAN STANDARD SYMBOLaCIRCLED IDEOGRAPH ONEcTWOcTHREEcFOURcFIVEcSIXcSEVEN
cEIGHTcNINEcTENcMOONcFIREcWATERcWOODcMETALcEARTHcSUNcSTOCKcHAVEcSOCIETYcNAMEcSPECIALcFINANCIAL
cCONGRATULATIONcLABORcSECRETcMALEcFEMALEcSUITABLEcEXCELLENTcPRINTcATTENTIONcITEMcRESTcCOPYcCORRECT
cHIGHcCENTREcLOWcLEFTcRIGHTcMEDICINEcRELIGIONcSTUDYcSUPERVISEcENTERPRISEcRESOURCEcALLIANCEcNIGHT
bNUMBER THIRTY SIXdSEVENdEIGHTdNINEcFORTYdONEdTWOdTHREEdFOURdFIVEdSIXdSEVENdEIGHTdNINEcFIFTY
aIDEOGRAPHIC TELEGRAPH SYMBOL FOR JANUARYeFEBRUARYeMARCHeAPRILeMAYeJUNEeJULYeAUGUSTeSEPTEMBER
eOCTOBEReNOVEMBEReDECEMBERaSQUARE HGbERGbEVaLIMITED LIABILITY SIGNaCIRCLED KATAKANA AcIcUcEcOcKA
cKIcKUcKEcKOcSAcSIcSUcSEcSOcTAcTIcTUcTEcTOcNAcNIcNUcNEcNOcHAcHIcHUcHEcHOcMAcMIcMUcMEcMOcYAcYUcYO
cRAcRIcRUcREcROcWAcWIcWEcWOaSQUARE ERA NAME REIWAbAPAATObARUHUAbANPEAbAARUbININGUbINTIbUON
bESUKUUDObEEKAAbONSUbOOMUbKAIRIbKARATTObKARORIIbGARONbGANMAbGIGAbGINIIbKYURIIbGIRUDAAbKIRO
bKIROGURAMUbKIROMEETORUbKIROWATTObGURAMUbGURAMUTONbKURUZEIRObKUROONEbKEESUbKORUNAbKOOPObSAIKURU
bSANTIIMUbSIRINGUbSENTIbSENTObDAASUbDESIbDORUbTONbNANObNOTTObHAITUbPAASENTObPAATUbBAARERU
bPIASUTORUbPIKURUbPIKObBIRUbHUARADDObHUIITObBUSSYERUbHURANbHEKUTAARUbPESObPENIHIbHERUTUbPENSU
bPEEZIbBEETAbPOINTObBORUTObHONbPONDObHOORUbHOONbMAIKURObMAIRUbMAHHAbMARUKUbMANSYONbMIKURONbMIRI
bMIRIBAARUbMEGAbMEGATONbMEETORUbYAADObYAARUbYUANbRITTORUbRIRAbRUPIIbRUUBURUbREMUbRENTOGENbWATTO
aIDEOGRAPHIC TELEGRAPH SYMBOL FOR HOUR ZEROfONEfTWOfTHREEfFOURfFIVEfSIXfSEVENfEIGHTfNINEfTEN
fELEVENfTWELVEfTHIRTEENfFOURTEENfFIFTEENfSIXTEENfSEVENTEENfEIGHTEENfNINETEENfTWENTYfTWENTY-ONE
fTWENTY-TWOfTWENTY-THREEfTWENTY-FOURaSQUARE HPAbDAbAUbBARbOVbPCbDMcSQUAREDcCUBEDbIU
bERA NAME HEISEIdSYOUWAdTAISYOUdMEIZIbCORPORATIONbPA AMPSbNAbMU AbMAbKAbKBbMBbGBbCALbKCALbPFbNF
bMU FcGbMGbKGbHZbKHZbMHZbGHZbTHZbMU LbMLbDLbKLbFMbNMbMU MbMMbCMbKMbMM SQUAREDbCM SQUAREDbM SQUARED
bKM SQUAREDbMM CUBEDbCM CUBEDbM CUBEDbKM CUBEDbM OVER SeSQUAREDbPAbKPAbMPAbGPAbRADcOVER SeSQUARED
bPSbNSbMU SbMSbPVbNVbMU VbMVbKVbMV MEGAbPWbNWbMU WbMWbKWbMW MEGAbK OHMbM OHMbAMbBQbCCbCDbC OVER KG
bCObDBbGYbHAbHPbINbKKbKM CAPITALbKTbLMbLNbLOGbLXbMB SMALLbMILbMOLbPHbPMbPPMbPRbSRbSVbWBbV OVER M
bA OVER MaIDEOGRAPHIC TELEGRAPH SYMBOL FOR DAY ONEfTWOfTHREEfFOURfFIVEfSIXfSEVENfEIGHTfNINEfTEN
fELEVENfTWELVEfTHIRTEENfFOURTEENfFIFTEENfSIXTEENfSEVENTEENfEIGHTEENfNINETEENfTWENTYfTWENTY-ONE
fTWENTY-TWOfTWENTY-THREEfTWENTY-FOURfTWENTY-FIVEfTWENTY-SIXfTWENTY-SEVENfTWENTY-EIGHTfTWENTY-NINE
fTHIRTYfTHIRTY-ONEaSQUARE GAL:4DC0aHEXAGRAM FOR THE CREATIVE HEAVENdRECEPTIVE EARTH
cDIFFICULTY AT THE BEGINNINGcYOUTHFUL FOLLYcWAITINGcCONFLICTcTHE ARMYcHOLDING TOGETHER
cSMALL TAMINGcTREADINGcPEACEcSTANDSTILLcFELLOWSHIPcGREAT POSSESSIONcMODESTYcENTHUSIASMcFOLLOWING
cWORK ON THE DECAYEDcAPPROACHcCONTEMPLATIONcBITING THROUGHcGRACEcSPLITTING APARTcRETURNcINNOCENCE
cGREAT TAMINGcMOUTH CORNERScGREAT PREPONDERANCEcTHE ABYSMAL WATERdCLINGING FIREcINFLUENCEcDURATION
cRETREATcGREAT POWERcPROGRESScDARKENING OF THE LIGHTcTHE FAMILYcOPPOSITIONcOBSTRUCTIONcDELIVERANCE
cDECREASEcINCREASEcBREAKTHROUGHcCOMING TO MEETcGATHERING TOGETHERcPUSHING UPWARDcOPPRESSION
cTHE WELLcREVOLUTIONcTHE CAULDRONdAROUSING THUNDERdKEEPING STILL MOUNTAINcDEVELOPMENT
cTHE MARRYING MAIDENcABUNDANCEcTHE WANDERERdGENTLE WINDdJOYOUS LAKEcDISPERSIONcLIMITATION
cINNER TRUTHcSMALL PREPONDERANCEcAFTER COMPLETIONcBEFORE COMPLETION:A000aYI SYLLABLE ITcIXcIcIP
cIETcIEXcIEcIEPcATcAXcAcAPcUOXcUOcUOPcOTcOXcOcOPcEXcEcWUcBITcBIXcBIcBIPcBIETcBIEXcBIEcBIEPcBATcBAX
cBAcBAPcBUOXcBUOcBUOPcBOTcBOXcBOcBOPcBEXcBEcBEPcBUTcBUXcBUcBUPcBURXcBURcBYTcBYXcBYcBYPcBYRXcBYR
cPITcPIXcPIcPIPcPIEXcPIEcPIEPcPATcPAXcPAcPAPcPUOXcPUOcPUOPcPOTcPOXcPOcPOPcPUTcPUXcPUcPUPcPURXcPUR
cPYTcPYXcPYcPYPcPYRXcPYRcBBITcBBIXcBBIcBBIPcBBIETcBBIEXcBBIEcBBIEPcBBATcBBAXcBBAcBBAPcBBUOXcBBUO
cBBUOPcBBOTcBBOXcBBOcBBOPcBBEXcBBEcBBEPcBBUTcBBUXcBBUcBBUPcBBURXcBBURcBBYTcBBYXcBBYcBBYPcNBITcNBIX
cNBIcNBIPcNBIEXcNBIEcNBIEPcNBATcNBAXcNBAcNBAPcNBOTcNBOXcNBOcNBOPcNBUTcNBUXcNBUcNBUPcNBURXcNBUR
cNBYTcNBYXcNBYcNBYPcNBYRXcNBYRcHMITcHMIXcHMIcHMIPcHMIEXcHMIEcHMIEPcHMATcHMAXcHMAcHMAPcHMUOXcHMUO
cHMUOPcHMOTcHMOXcHMOcHMOPcHMUTcHMUXcHMUcHMUPcHMURXcHMURcHMYXcHMYcHMYPcHMYRXcHMYRcMITcMIXcMIcMIP
cMIEXcMIEcMIEPcMATcMAXcMAcMAPcMUOTcMUOXcMUOcMUOPcMOTcMOXcMOcMOPcMEXcMEcMUTcMUXcMUcMUPcMURXcMURcMYT
cMYXcMYcMYPcFITcFIXcFIcFIPcFATcFAXcFAcFAPcFOXcFOcFOPcFUTcFUXcFUcFUPcFURXcFURcFYTcFYXcFYcFYPcVIT
cVIXcVIcVIPcVIETcVIEXcVIEcVIEPcVATcVAXcVAcVAPcVOTcVOXcVOcVOPcVEXcVEPcVUTcVUXcVUcVUPcVURXcVURcVYT
cVYXcVYcVYPcVYRXcVYRcDITcDIXcDIcDIPcDIEXcDIEcDIEPcDATcDAXcDAcDAPcDUOXcDUOcDOTcDOXcDOcDOPcDEXcDE
cDEPcDUTcDUXcDUcDUPcDURXcDURcTITcTIXcTIcTIPcTIEXcTIEcTIEPcTATcTAXcTAcTAPcTUOTcTUOXcTUOcTUOPcTOT
cTOXcTOcTOPcTEXcTEcTEPcTUTcTUXcTUcTUPcTURXcTURcDDITcDDIXcDDIcDDIPcDDIEXcDDIEcDDIEPcDDATcDDAXcDDA
cDDAPcDDUOXcDDUOcDDUOPcDDOTcDDOXcDDOcDDOPcDDEXcDDEcDDEPcDDUTcDDUXcDDUcDDUPcDDURXcDDURcNDITcNDIX
cNDIcNDIPcNDIEXcNDIEcNDATcNDAXcNDAcNDAPcNDOTcNDOXcNDOcNDOPcNDEXcNDEcNDEPcNDUTcNDUXcNDUcNDUPcNDURX
cNDURcHNITcHNIXcHNIcHNIPcHNIETcHNIEXcHNIEcHNIEPcHNATcHNAXcHNAcHNAPcHNUOXcHNUOcHNOTcHNOXcHNOPcHNEX
cHNEcHNEPcHNUTcNITcNIXcNIcNIPcNIEXcNIEcNIEPcNAXcNAcNAPcNUOXcNUOcNUOPcNOTcNOXcNOcNOPcNEXcNEcNEPcNUT
cNUXcNUcNUPcNURXcNURcHLITcHLIXcHLIcHLIPcHLIEXcHLIEcHLIEPcHLATcHLAXcHLAcHLAPcHLUOXcHLUOcHLUOPcHLOX
cHLOcHLOPcHLEXcHLEcHLEPcHLUTcHLUXcHLUcHLUPcHLURXcHLURcHLYTcHLYXcHLYcHLYPcHLYRXcHLYRcLITcLIXcLIcLIP
cLIETcLIEXcLIEcLIEPcLATcLAXcLAcLAPcLUOTcLUOXcLUOcLUOPcLOTcLOXcLOcLOPcLEXcLEcLEPcLUTcLUXcLUcLUP
cLURXcLURcLYTcLYXcLYcLYPcLYRXcLYRcGITcGIXcGIcGIPcGIETcGIEXcGIEcGIEPcGATcGAXcGAcGAPcGUOTcGUOXcGUO
cGUOPcGOTcGOXcGOcGOPcGETcGEXcGEcGEPcGUTcGUXcGUcGUPcGURXcGURcKITcKIXcKIcKIPcKIEXcKIEcKIEPcKATcKAX
cKAcKAPcKUOXcKUOcKUOPcKOTcKOXcKOcKOPcKETcKEXcKEcKEPcKUTcKUXcKUcKUPcKURXcKURcGGITcGGIXcGGIcGGIEX
cGGIEcGGIEPcGGATcGGAXcGGAcGGAPcGGUOTcGGUOXcGGUOcGGUOPcGGOTcGGOXcGGOcGGOPcGGETcGGEXcGGEcGGEPcGGUT
cGGUXcGGUcGGUPcGGURXcGGURcMGIEXcMGIEcMGATcMGAXcMGAcMGAPcMGUOXcMGUOcMGUOPcMGOTcMGOXcMGOcMGOPcMGEX
cMGEcMGEPcMGUTcMGUXcMGUcMGUPcMGURXcMGURcHXITcHXIXcHXIcHXIPcHXIETcHXIEXcHXIEcHXIEPcHXATcHXAXcHXA
cHXAPcHXUOTcHXUOXcHXUOcHXUOPcHXOTcHXOXcHXOcHXOPcHXEXcHXEcHXEPcNGIEXcNGIEcNGIEPcNGATcNGAXcNGAcNGAP
cNGUOTcNGUOXcNGUOcNGOTcNGOXcNGOcNGOPcNGEXcNGEcNGEPcHITcHIEXcHIEcHATcHAXcHAcHAPcHUOTcHUOXcHUOcHUOP
cHOTcHOXcHOcHOPcHEXcHEcHEPcWATcWAXcWAcWAPcWUOXcWUOcWUOPcWOXcWOcWOPcWEXcWEcWEPcZITcZIXcZIcZIPcZIEX
cZIEcZIEPcZATcZAXcZAcZAPcZUOXcZUOcZUOPcZOTcZOXcZOcZOPcZEXcZEcZEPcZUTcZUXcZUcZUPcZURXcZURcZYTcZYX
cZYcZYPcZYRXcZYRcCITcCIXcCIcCIPcCIETcCIEXcCIEcCIEPcCATcCAXcCAcCAPcCUOXcCUOcCUOPcCOTcCOXcCOcCOPcCEX
cCEcCEPcCUTcCUXcCUcCUPcCURXcCURcCYTcCYXcCYcCYPcCYRXcCYRcZZITcZZIXcZZIcZZIPcZZIETcZZIEXcZZIEcZZIEP
cZZATcZZAXcZZAcZZAPcZZOXcZZOcZZOPcZZEXcZZEcZZEPcZZUXcZZUcZZUPcZZURXcZZURcZZYTcZZYXcZZYcZZYPcZZYRX
cZZYRcNZITcNZIXcNZIcNZIPcNZIEXcNZIEcNZIEPcNZATcNZAXcNZAcNZAPcNZUOXcNZUOcNZOXcNZOPcNZEXcNZEcNZUX
cNZUcNZUPcNZURXcNZURcNZYTcNZYXcNZYcNZYPcNZYRXcNZYRcSITcSIXcSIcSIPcSIEXcSIEcSIEPcSATcSAXcSAcSAP
cSUOXcSUOcSUOPcSOTcSOXcSOcSOPcSEXcSEcSEPcSUTcSUXcSUcSUPcSURXcSURcSYTcSYXcSYcSYPcSYRXcSYRcSSITcSSIX
cSSIcSSIPcSSIEXcSSIEcSSIEPcSSATcSSAXcSSAcSSAPcSSOTcSSOXcSSOcSSOPcSSEXcSSEcSSEPcSSUTcSSUXcSSUcSSUP
cSSYTcSSYXcSSYcSSYPcSSYRXcSSYRcZHATcZHAXcZHAcZHAPcZHUOXcZHUOcZHUOPcZHOTcZHOXcZHOcZHOPcZHETcZHEX
cZHEcZHEPcZHUTcZHUXcZHUcZHUPcZHURXcZHURcZHYTcZHYXcZHYcZHYPcZHYRXcZHYRcCHATcCHAXcCHAcCHAPcCHUOT
cCHUOXcCHUOcCHUOPcCHOTcCHOXcCHOcCHOPcCHETcCHEXcCHEcCHEPcCHUXcCHUcCHUPcCHURXcCHURcCHYTcCHYXcCHY
cCHYPcCHYRXcCHYRcRRAXcRRAcRRUOXcRRUOcRROTcRROXcRROcRROPcRRETcRREXcRREcRREPcRRUTcRRUXcRRUcRRUP
cRRURXcRRURcRRYTcRRYXcRRYcRRYPcRRYRXcRRYRcNRATcNRAXcNRAcNRAPcNROXcNROcNROPcNRETcNREXcNREcNREPcNRUT
cNRUXcNRUcNRUPcNRURXcNRURcNRYTcNRYXcNRYcNRYPcNRYRXcNRYRcSHATcSHAXcSHAcSHAPcSHUOXcSHUOcSHUOPcSHOT
cSHOXcSHOcSHOPcSHETcSHEXcSHEcSHEPcSHUTcSHUXcSHUcSHUPcSHURXcSHURcSHYTcSHYXcSHYcSHYPcSHYRXcSHYRcRAT
cRAXcRAcRAPcRUOXcRUOcRUOPcROTcROXcROcROPcREXcREcREPcRUTcRUXcRUcRUPcRURXcRURcRYTcRYXcRYcRYPcRYRX
cRYRcJITcJIXcJIcJIPcJIETcJIEXcJIEcJIEPcJUOTcJUOXcJUOcJUOPcJOTcJOXcJOcJOPcJUTcJUXcJUcJUPcJURXcJUR
cJYTcJYXcJYcJYPcJYRXcJYRcQITcQIXcQIcQIPcQIETcQIEXcQIEcQIEPcQUOTcQUOXcQUOcQUOPcQOTcQOXcQOcQOPcQUT
cQUXcQUcQUPcQURXcQURcQYTcQYXcQYcQYPcQYRXcQYRcJJITcJJIXcJJIcJJIPcJJIETcJJIEXcJJIEcJJIEPcJJUOXcJJUO
cJJUOPcJJOTcJJOXcJJOcJJOPcJJUTcJJUXcJJUcJJUPcJJURXcJJURcJJYTcJJYXcJJYcJJYPcNJITcNJIXcNJIcNJIP
cNJIETcNJIEXcNJIEcNJIEPcNJUOXcNJUOcNJOTcNJOXcNJOcNJOPcNJUXcNJUcNJUPcNJURXcNJURcNJYTcNJYXcNJYcNJYP
cNJYRXcNJYRcNYITcNYIXcNYIcNYIPcNYIETcNYIEXcNYIEcNYIEPcNYUOXcNYUOcNYUOPcNYOTcNYOXcNYOcNYOPcNYUT
cNYUXcNYUcNYUPcXITcXIXcXIcXIPcXIETcXIEXcXIEcXIEPcXUOXcXUOcXOTcXOXcXOcXOPcXYTcXYXcXYcXYPcXYRXcXYR
cYITcYIXcYIcYIPcYIETcYIEXcYIEcYIEPcYUOTcYUOXcYUOcYUOPcYOTcYOXcYOcYOPcYUTcYUXcYUcYUPcYURXcYURcYYT
cYYXcYYcYYPcYYRXcYYR:A490aYI RADICAL QOTcLIcKITcNYIPcCYPcSSIcGGOPcGEPcMIcHXITcLYRcBBUTcMOPcYOcPUT
cHXUOcTATcGAcZUPcCYTcDDURcBURcGGUOcNYOPcTUcOPcJJUTcZOTcPYTcHMOcYITcVURcSHYcVEPcZAcJOcNZUPcJJYcGOT
cJJIEcWOcDUcSHURcLIEcCYcCUOPcCIPcHXOPcSHATcZURcSHOPcCHEcZZIETcNBIEcKE:A4D0aLISU LETTER BAcPAcPHA
cDAcTAcTHAcGAcKAcKHAcJAcCAcCHAcDZAcTSAcTSHAcMAcNAcLAcSAcZHAcZAcNGAcHAcXAcHHAcFAcWAcSHAcYAcGHAcAcAE
cEcEUcIcOcUcUEcUHcOEcTONE MYA TIdNA POdMYA CYAeBOeNAeJEUbPUNCTUATION COMMAcFULL STOP
aVAI SYLLABLE EEcEENcHEEcWEEcWEENcPEEcBHEEcBEEcMBEEcKPEEcMGBEEcGBEEcFEEcVEEcTEEcTHEEcDHEEcDHHEE
cLEEcREEcDEEcNDEEcSEEcSHEEcZEEcZHEEcCEEcJEEcNJEEcYEEcKEEcNGGEEcGEEcMEEcNEEcNYEEcIcINcHIcHINcWIcWIN
cPIcBHIcBIcMBIcKPIcMGBIcGBIcFIcVIcTIcTHIcDHIcDHHIcLIcRIcDIcNDIcSIcSHIcZIcZHIcCIcJIcNJIcYIcKIcNGGI
cGIcMIcNIcNYIcAcANcNGANcHAcHANcWAcWANcPAcBHAcBAcMBAcKPAcKPANcMGBAcGBAcFAcVAcTAcTHAcDHAcDHHAcLAcRA
cDAcNDAcSAcSHAcZAcZHAcCAcJAcNJAcYAcKAcKANcNGGAcGAcMAcNAcNYAcOOcOONcHOOcWOOcWOONcPOOcBHOOcBOOcMBOO
cKPOOcMGBOOcGBOOcFOOcVOOcTOOcTHOOcDHOOcDHHOOcLOOcROOcDOOcNDOOcSOOcSHOOcZOOcZHOOcCOOcJOOcNJOOcYOO
cKOOcNGGOOcGOOcMOOcNOOcNYOOcUcUNcHUcHUNcWUcWUNcPUcBHUcBUcMBUcKPUcMGBUcGBUcFUcVUcTUcTHUcDHUcDHHUcLU
cRUcDUcNDUcSUcSHUcZUcZHUcCUcJUcNJUcYUcKUcNGGUcGUcMUcNUcNYUcOcONcNGONcHOcHONcWOcWONcPOcBHOcBOcMBO
cKPOcMGBOcGBOcGBONcFOcVOcTOcTHOcDHOcDHHOcLOcROcDOcNDOcSOcSHOcZOcZHOcCOcJOcNJOcYOcKOcNGGOcGOcMOcNO
cNYOcEcENcNGENcHEcHENcWEcWENcPEcBHEcBEcMBEcKPEcKPENcMGBEcGBEcGBENcFEcVEcTEcTHEcDHEcDHHEcLEcREcDE
cNDEcSEcSHEcZEcZHEcCEcJEcNJEcYEcKEcNGGEcNGGENcGEcGENcMEcNEcNYEcNGcLENGTHENERbCOMMAbFULL STOP
bQUESTION MARKbSYLLABLE NDOLE FAdKAdSOObSYMBOL FEENGcKEENGcTINGcNIIcBANGcFAAcTAAcDANGcDOONGcKUNG
cTONGcDO-OcJONGbDIGIT ZEROcONEcTWOcTHREEcFOURcFIVEcSIXcSEVENcEIGHTcNINEbSYLLABLE NDOLE MAdDO:A640
aCYRILLIC CAPITAL LETTER ZEMLYAbSMALL LETTER ZEMLYAbCAPITAL LETTER DZELObSMALL LETTER DZELO
bCAPITAL LETTER REVERSED DZEbSMALL LETTER REVERSED DZEbCAPITAL LETTER IOTAbSMALL LETTER IOTA
bCAPITAL LETTER DJERVbSMALL LETTER DJERVbCAPITAL LETTER MONOGRAPH UKbSMALL LETTER MONOGRAPH UK
bCAPITAL LETTER BROAD OMEGAbSMALL LETTER BROAD OMEGAbCAPITAL LETTER NEUTRAL YER
bSMALL LETTER NEUTRAL YERbCAPITAL LETTER YERU WITH BACK YERbSMALL LETTER YERU WITH BACK YER
bCAPITAL LETTER IOTIFIED YATbSMALL LETTER IOTIFIED YATbCAPITAL LETTER REVERSED YU
bSMALL LETTER REVERSED YUbCAPITAL LETTER IOTIFIED AbSMALL LETTER IOTIFIED A
bCAPITAL LETTER CLOSED LITTLE YUSbSMALL LETTER CLOSED LITTLE YUSbCAPITAL LETTER BLENDED YUS
bSMALL LETTER BLENDED YUSbCAPITAL LETTER IOTIFIED CLOSED LITTLE YUS
bSMALL LETTER IOTIFIED CLOSED LITTLE YUSbCAPITAL LETTER YNbSMALL LETTER YN
bCAPITAL LETTER REVERSED TSEbSMALL LETTER REVERSED TSEbCAPITAL LETTER SOFT DEbSMALL LETTER SOFT DE
bCAPITAL LETTER SOFT ELbSMALL LETTER SOFT ELbCAPITAL LETTER SOFT EMbSMALL LETTER SOFT EM
bCAPITAL LETTER MONOCULAR ObSMALL LETTER MONOCULAR ObCAPITAL LETTER BINOCULAR O
bSMALL LETTER BINOCULAR ObCAPITAL LETTER DOUBLE MONOCULAR ObSMALL LETTER DOUBLE MONOCULAR O
bLETTER MULTIOCULAR OaCOMBINING CYRILLIC VZMETcTEN MILLIONS SIGNcHUNDRED MILLIONS SIGN
cTHOUSAND MILLIONS SIGNaSLAVONIC ASTERISKaCOMBINING CYRILLIC LETTER UKRAINIAN IEdIdYIdUdHARD SIGN
dYERUdSOFT SIGNdOMEGAcKAVYKAcPAYEROKaCYRILLIC KAVYKAbPAYEROKbCAPITAL LETTER DWEbSMALL LETTER DWE
bCAPITAL LETTER DZWEbSMALL LETTER DZWEbCAPITAL LETTER ZHWEbSMALL LETTER ZHWEbCAPITAL LETTER CCHE
bSMALL LETTER CCHEbCAPITAL LETTER DZZEbSMALL LETTER DZZEbCAPITAL LETTER TE WITH MIDDLE HOOK
bSMALL LETTER TE WITH MIDDLE HOOKbCAPITAL LETTER TWEbSMALL LETTER TWEbCAPITAL LETTER TSWE
bSMALL LETTER TSWEbCAPITAL LETTER TSSEbSMALL LETTER TSSEbCAPITAL LETTER TCHEbSMALL LETTER TCHE
bCAPITAL LETTER HWEbSMALL LETTER HWEbCAPITAL LETTER SHWEbSMALL LETTER SHWEbCAPITAL LETTER DOUBLE O
bSMALL LETTER DOUBLE ObCAPITAL LETTER CROSSED ObSMALL LETTER CROSSED O
aMODIFIER LETTER CYRILLIC HARD SIGNdSOFT SIGNaCOMBINING CYRILLIC LETTER EFdIOTIFIED E
aBAMUM LETTER AcKAcUcKUcEEcREEcTAEcOcNYIcIcLAcPAcRIIcRIEEcLEEEEcMEEEEcTAAcNDAAcNJAEMcMcSUUcMUcSHII
cSIcSHEUXcSEUXcKYEEcKETcNUAEcNUcNJUAEcYOQcSHUcYUQcYAcNSHAcKEUXcPEUXcNJEEcNTEEcPUEcWUEcPEEcFEEcRU
cLUcMIcNIcREUXcRAEcKENcNGKWAENcNGGAcNGAcSHOcPUAEcFUcFOMcWAcNAcLIcPIcLOQcKOcMBENcRENcMENcMAcTIcKI
cMOcMBAAcTETcKPAcTENcNTUUcSAMBAcFAAMAEcKOVUUcKOGHOMbCOMBINING MARK KOQNDONdTUKWENTISbNJAEMLI
bFULL STOPbCOLONbCOMMAbSEMICOLONbQUESTION MARK:A700aMODIFIER LETTER CHINESE TONE YIN PING
eYANG PINGeYIN SHANGeYANG SHANGeYIN QUeYANG QUeYIN RUeYANG RUcEXTRA-HIGH DOTTED TONE BAR
cHIGH DOTTED TONE BARcMID DOTTED TONE BARcLOW DOTTED TONE BARcEXTRA-LOW DOTTED TONE BAR
cEXTRA-HIGH DOTTED LEFT-STEM TONE BARcHIGH DOTTED LEFT-STEM TONE BARcMID DOTTED LEFT-STEM TONE BAR
cLOW DOTTED LEFT-STEM TONE BARcEXTRA-LOW DOTTED LEFT-STEM TONE BARcEXTRA-HIGH LEFT-STEM TONE BAR
cHIGH LEFT-STEM TONE BARcMID LEFT-STEM TONE BARcLOW LEFT-STEM TONE BAR
cEXTRA-LOW LEFT-STEM TONE BARcDOT VERTICAL BARdSLASHdHORIZONTAL BARcLOWER RIGHT CORNER ANGLE
cRAISED UP ARROWdDOWN ARROWdEXCLAMATION MARKdINVERTED EXCLAMATION MARK
cLOW INVERTED EXCLAMATION MARKcSTRESS AND HIGH TONEeLOW TONE
aLATIN CAPITAL LETTER EGYPTOLOGICAL ALEFbSMALL LETTER EGYPTOLOGICAL ALEF
bCAPITAL LETTER EGYPTOLOGICAL AINbSMALL LETTER EGYPTOLOGICAL AINbCAPITAL LETTER HENG
bSMALL LETTER HENGbCAPITAL LETTER TZbSMALL LETTER TZbCAPITAL LETTER TRESILLObSMALL LETTER TRESILLO
bCAPITAL LETTER CUATRILLObSMALL LETTER CUATRILLObCAPITAL LETTER CUATRILLO WITH COMMA
bSMALL LETTER CUATRILLO WITH COMMAbLETTER SMALL CAPITAL FeSbCAPITAL LETTER AAbSMALL LETTER AA
bCAPITAL LETTER AObSMALL LETTER AObCAPITAL LETTER AUbSMALL LETTER AUbCAPITAL LETTER AV
bSMALL LETTER AVbCAPITAL LETTER AV WITH HORIZONTAL BARbSMALL LETTER AV WITH HORIZONTAL BAR
bCAPITAL LETTER AYbSMALL LETTER AYbCAPITAL LETTER REVERSED C WITH DOT
bSMALL LETTER REVERSED C WITH DOTbCAPITAL LETTER K WITH STROKEbSMALL LETTER K WITH STROKE
bCAPITAL LETTER K WITH DIAGONAL STROKEbSMALL LETTER K WITH DIAGONAL STROKE
bCAPITAL LETTER K WITH STROKE AND DIAGONAL STROKEbSMALL LETTER K WITH STROKE AND DIAGONAL STROKE
bCAPITAL LETTER BROKEN LbSMALL LETTER BROKEN LbCAPITAL LETTER L WITH HIGH STROKE
bSMALL LETTER L WITH HIGH STROKEbCAPITAL LETTER O WITH LONG STROKE OVERLAY
bSMALL LETTER O WITH LONG STROKE OVERLAYbCAPITAL LETTER O WITH LOOPbSMALL LETTER O WITH LOOP
bCAPITAL LETTER OObSMALL LETTER OObCAPITAL LETTER P WITH STROKE THROUGH DESCENDER
bSMALL LETTER P WITH STROKE THROUGH DESCENDERbCAPITAL LETTER P WITH FLOURISH
bSMALL LETTER P WITH FLOURISHbCAPITAL LETTER P WITH SQUIRREL TAIL
bSMALL LETTER P WITH SQUIRREL TAILbCAPITAL LETTER Q WITH STROKE THROUGH DESCENDER
bSMALL LETTER Q WITH STROKE THROUGH DESCENDERbCAPITAL LETTER Q WITH DIAGONAL STROKE
bSMALL LETTER Q WITH DIAGONAL STROKEbCAPITAL LETTER R ROTUNDAbSMALL LETTER R ROTUNDA
bCAPITAL LETTER RUM ROTUNDAbSMALL LETTER RUM ROTUNDAbCAPITAL LETTER V WITH DIAGONAL STROKE
bSMALL LETTER V WITH DIAGONAL STROKEbCAPITAL LETTER VYbSMALL LETTER VYbCAPITAL LETTER VISIGOTHIC Z
bSMALL LETTER VISIGOTHIC ZbCAPITAL LETTER THORN WITH STROKEbSMALL LETTER THORN WITH STROKE
bCAPITAL LETTER THORN WITH STROKE THROUGH DESCENDER
bSMALL LETTER THORN WITH STROKE THROUGH DESCENDERbCAPITAL LETTER VENDbSMALL LETTER VEND
bCAPITAL LETTER ETbSMALL LETTER ETbCAPITAL LETTER ISbSMALL LETTER ISbCAPITAL LETTER CON
bSMALL LETTER CONaMODIFIER LETTER USaLATIN SMALL LETTER DUMdLUMdMUMdNUMdRUM
bLETTER SMALL CAPITAL RUMbSMALL LETTER TUMdUMbCAPITAL LETTER INSULAR DbSMALL LETTER INSULAR D
bCAPITAL LETTER INSULAR FbSMALL LETTER INSULAR FbCAPITAL LETTER INSULAR GdTURNED INSULAR G
bSMALL LETTER TURNED INSULAR GbCAPITAL LETTER TURNED LbSMALL LETTER TURNED L
bCAPITAL LETTER INSULAR RbSMALL LETTER INSULAR RbCAPITAL LETTER INSULAR SbSMALL LETTER INSULAR S
bCAPITAL LETTER INSULAR TbSMALL LETTER INSULAR TaMODIFIER LETTER LOW CIRCUMFLEX ACCENTcCOLON
cSHORT EQUALS SIGNaLATIN CAPITAL LETTER SALTILLObSMALL LETTER SALTILLObCAPITAL LETTER TURNED H
bSMALL LETTER L WITH RETROFLEX HOOK AND BELTbLETTER SINOLOGICAL DOT
bCAPITAL LETTER N WITH DESCENDERbSMALL LETTER N WITH DESCENDERbCAPITAL LETTER C WITH BAR
bSMALL LETTER C WITH BARfPALATAL HOOKdH WITH PALATAL HOOKbCAPITAL LETTER B WITH FLOURISH
bSMALL LETTER B WITH FLOURISHbCAPITAL LETTER F WITH STROKEbSMALL LETTER F WITH STROKE
bCAPITAL LETTER VOLAPUK AEbSMALL LETTER VOLAPUK AEbCAPITAL LETTER VOLAPUK OE
bSMALL LETTER VOLAPUK OEbCAPITAL LETTER VOLAPUK UEbSMALL LETTER VOLAPUK UE
bCAPITAL LETTER G WITH OBLIQUE STROKEbSMALL LETTER G WITH OBLIQUE STROKE
bCAPITAL LETTER K WITH OBLIQUE STROKEbSMALL LETTER K WITH OBLIQUE STROKE
bCAPITAL LETTER N WITH OBLIQUE STROKEbSMALL LETTER N WITH OBLIQUE STROKE
bCAPITAL LETTER R WITH OBLIQUE STROKEbSMALL LETTER R WITH OBLIQUE STROKE
bCAPITAL LETTER S WITH OBLIQUE STROKEbSMALL LETTER S WITH OBLIQUE STROKE
bCAPITAL LETTER H WITH HOOKdREVERSED OPEN EdSCRIPT GdL WITH BELTdSMALL CAPITAL I
bLETTER SMALL CAPITAL QbCAPITAL LETTER TURNED KeTdJ WITH CROSSED-TAILdCHIdBETAbSMALL LETTER BETA
bCAPITAL LETTER OMEGAbSMALL LETTER OMEGAbCAPITAL LETTER U WITH STROKEbSMALL LETTER U WITH STROKE
bCAPITAL LETTER GLOTTAL AbSMALL LETTER GLOTTAL AbCAPITAL LETTER GLOTTAL IbSMALL LETTER GLOTTAL I
bCAPITAL LETTER GLOTTAL UbSMALL LETTER GLOTTAL UbCAPITAL LETTER OLD POLISH O
bSMALL LETTER OLD POLISH ObCAPITAL LETTER ANGLICANA WbSMALL LETTER ANGLICANA W
bCAPITAL LETTER C WITH PALATAL HOOKdS WITH HOOKdZ WITH PALATAL HOOKdD WITH SHORT STROKE OVERLAY
bSMALL LETTER D WITH SHORT STROKE OVERLAYbCAPITAL LETTER S WITH SHORT STROKE OVERLAY
bSMALL LETTER S WITH SHORT STROKE OVERLAY:A7D0aLATIN CAPITAL LETTER CLOSED INSULAR G
bSMALL LETTER CLOSED INSULAR G:A7D3aLATIN SMALL LETTER DOUBLE THORN:A7D5
aLATIN SMALL LETTER DOUBLE WYNNbCAPITAL LETTER MIDDLE SCOTS SbSMALL LETTER MIDDLE SCOTS S
bCAPITAL LETTER SIGMOID SbSMALL LETTER SIGMOID S:A7F2aMODIFIER LETTER CAPITAL CdFdQ
aLATIN CAPITAL LETTER REVERSED HALF HbSMALL LETTER REVERSED HALF HbEPIGRAPHIC LETTER SIDEWAYS I
aMODIFIER LETTER CAPITAL H WITH STROKEcSMALL LIGATURE OEaLATIN LETTER SMALL CAPITAL TURNED M
bEPIGRAPHIC LETTER REVERSED FePdINVERTED MdI LONGAdARCHAIC MaSYLOTI NAGRI LETTER AdIcSIGN DVISVARA
cLETTER UdEdOcSIGN HASANTAcLETTER KOdKHOdGOdGHOcSIGN ANUSVARAcLETTER COdCHOdJOdJHOdTTOdTTHOdDDO
dDDHOdTOdTHOdDOdDHOdNOdPOdPHOdBOdBHOdMOdROdLOdRROdSOdHOcVOWEL SIGN AeIeUeEeOOcPOETRY MARK-1dMARK-2
dMARK-3dMARK-4cSIGN ALTERNATE HASANTA:A830aNORTH INDIC FRACTION ONE QUARTEReHALFdTHREE QUARTERS
dONE SIXTEENTHeEIGHTHdTHREE SIXTEENTHScQUARTER MARKcPLACEHOLDER MARKcRUPEE MARKcQUANTITY MARK:A840
aPHAGS-PA LETTER KAcKHAcGAcNGAcCAcCHAcJAcNYAcTAcTHAcDAcNAcPAcPHAcBAcMAcTSAcTSHAcDZAcWAcZHAcZA
cSMALL AcYAcRAcLAcSHAcSAcHAcAcIcUcEcOcQAcXAcFAcGGAcEEbSUBJOINED LETTER WAdYAbLETTER TTAcTTHAcDDA
cNNAcALTERNATE YAcVOICELESS SHAcVOICED HAcASPIRATED FAbSUBJOINED LETTER RAbSUPERFIXED LETTER RA
bLETTER CANDRABINDUbSINGLE HEAD MARKbDOUBLE HEAD MARKbMARK SHADcDOUBLE SHAD:A880
aSAURASHTRA SIGN ANUSVARAcVISARGAbLETTER AcAAcIcIIcUcUUcVOCALIC RdRRdLdLLcEcEEcAIcOcOOcAUcKAcKHA
cGAcGHAcNGAcCAcCHAcJAcJHAcNYAcTTAcTTHAcDDAcDDHAcNNAcTAcTHAcDAcDHAcNAcPAcPHAcBAcBHAcMAcYAcRAcLAcVA
cSHAcSSAcSAcHAcLLAbCONSONANT SIGN HAARUbVOWEL SIGN AAdIdIIdUdUUdVOCALIC ReRReLeLLdEdEEdAIdOdOOdAU
bSIGN VIRAMAcCANDRABINDU:A8CEaSAURASHTRA DANDAbDOUBLE DANDAbDIGIT ZEROcONEcTWOcTHREEcFOURcFIVEcSIX
cSEVENcEIGHTcNINE:A8E0aCOMBINING DEVANAGARI DIGIT ZEROdONEdTWOdTHREEdFOURdFIVEdSIXdSEVENdEIGHT
dNINEcLETTER AdUdKAdNAdPAdRAdVIcSIGN AVAGRAHAaDEVANAGARI SIGN SPACING CANDRABINDU
cCANDRABINDU VIRAMAcDOUBLE CANDRABINDU VIRAMAcCANDRABINDU TWOdTHREEdAVAGRAHAcPUSHPIKAbGAP FILLER
bCARETbHEADSTROKEbSIGN SIDDHAMbJAIN OMbLETTER AYbVOWEL SIGN AYaKAYAH LI DIGIT ZEROdONEdTWOdTHREE
dFOURdFIVEdSIXdSEVENdEIGHTdNINEcLETTER KAdKHAdGAdNGAdSAdSHAdZAdNYAdTAdHTAdNAdPAdPHAdMAdDAdBAdRAdYA
dLAdWAdTHAdHAdVAdCAdAdOEdIdOOcVOWEL UEdEdUdEEdOcTONE PLOPHUdCALYAePLOPHUcSIGN CWIdSHYA
aREJANG LETTER KAcGAcNGAcTAcDAcNAcPAcBAcMAcCAcJAcNYAcSAcRAcLAcYAcWAcHAcMBAcNGGAcNDAcNYJAcA
bVOWEL SIGN IdUdEdAIdOdAUdEUdEAbCONSONANT SIGN NGdNdRdHbVIRAMA:A95FaREJANG SECTION MARK
aHANGUL CHOSEONG TIKEUT-MIEUMcTIKEUT-PIEUPcTIKEUT-SIOScTIKEUT-CIEUCcRIEUL-KIYEOKcRIEUL-SSANGKIYEOK
cRIEUL-TIKEUTcRIEUL-SSANGTIKEUTcRIEUL-MIEUMcRIEUL-PIEUPcRIEUL-SSANGPIEUPcRIEUL-KAPYEOUNPIEUP
cRIEUL-SIOScRIEUL-CIEUCcRIEUL-KHIEUKHcMIEUM-KIYEOKcMIEUM-TIKEUTcMIEUM-SIOScPIEUP-SIOS-THIEUTH
cPIEUP-KHIEUKHcPIEUP-HIEUHcSSANGSIOS-PIEUPcIEUNG-RIEULcIEUNG-HIEUHcSSANGCIEUC-HIEUHcSSANGTHIEUTH
cPHIEUPH-HIEUHcHIEUH-SIOScSSANGYEORINHIEUH:A980aJAVANESE SIGN PANYANGGAcCECAKcLAYARcWIGNYAN
bLETTER AcI KAWIcIcIIcUcPA CEREKcNGA LELETeRASWADIcEcAIcOcKAdSASAKdMURDAcGAdMURDAcNGAcCAdMURDAcJA
cNYA MURDAcJA MAHAPRANAcNYAcTTAdMAHAPRANAcDDAdMAHAPRANAcNA MURDAcTAdMURDAcDAdMAHAPRANAcNAcPAdMURDA
cBAdMURDAcMAcYAcRAdAGUNGcLAcWAcSA MURDAdMAHAPRANAcSAcHAbSIGN CECAK TELUbVOWEL SIGN TARUNGdTOLONG
dWULUeMELIKdSUKUeMENDUTdTALINGdDIRGA MUREdPEPETbCONSONANT SIGN KERETdPENGKALdCAKRAbPANGKON
bLEFT RERENGGANbRIGHT RERENGGANbPADA ANDAPcMADYAcLUHURcWINDUcPANGKATcLINGSAcLUNGSIcADEGdADEG
cPISELEHbTURNED PADA PISELEH:A9CFaJAVANESE PANGRANGKEPbDIGIT ZEROcONEcTWOcTHREEcFOURcFIVEcSIX
cSEVENcEIGHTcNINE:A9DEaJAVANESE PADA TIRTA TUMETEScISEN-ISENaMYANMAR LETTER SHAN GHAdCHAdJHAdNNA
dBHAbSIGN SHAN SAWbMODIFIER LETTER SHAN REDUPLICATIONbLETTER TAI LAING NYAeFAeGAeGHAeJAeJHAeDDA
eDDHAeNNAbTAI LAING DIGIT ZEROeONEeTWOeTHREEeFOUReFIVEeSIXeSEVENeEIGHTeNINEbLETTER TAI LAING LLA
eDAeDHAeBAeBHA:AA00aCHAM LETTER AcIcUcEcAIcOcKAcKHAcGAcGHAcNGUEcNGAcCHAcCHHAcJAcJHAcNHUEcNHAcNHJA
cTAcTHAcDAcDHAcNUEcNAcDDAcPAcPPAcPHAcBAcBHAcMUEcMAcBBAcYAcRAcLAcVAcSSAcSAcHAbVOWEL SIGN AAdIdIIdEI
dUdOEdOdAIdAUdUEbCONSONANT SIGN YAdRAdLAdWA:AA40aCHAM LETTER FINAL KdGdNGbCONSONANT SIGN FINAL NG
bLETTER FINAL CHdTdNdPdYdRdLdSSbCONSONANT SIGN FINAL MeH:AA50aCHAM DIGIT ZEROcONEcTWOcTHREEcFOUR
cFIVEcSIXcSEVENcEIGHTcNINE:AA5CaCHAM PUNCTUATION SPIRALcDANDAcDOUBLE DANDAcTRIPLE DANDA
aMYANMAR LETTER KHAMTI GAdCAdCHAdJAdJHAdNYAdTTAdTTHAdDDAdDDHAdDHAdNAdSAdHAdHHAdFA
bMODIFIER LETTER KHAMTI REDUPLICATIONbLETTER KHAMTI XAdZAdRAbLOGOGRAM KHAMTI OAYdQNdHM
bSYMBOL AITON EXCLAMATIONdONEdTWObLETTER AITON RAbSIGN PAO KAREN TONEcTAI LAING TONE-2eTONE-5
bLETTER SHWE PALAUNG CHAeSHAaTAI VIET LETTER LOW KOdHIGH KOdLOW KHOdHIGH KHOdLOW KHHOdHIGH KHHO
dLOW GOdHIGH GOdLOW NGOdHIGH NGOdLOW COdHIGH COdLOW CHOdHIGH CHOdLOW SOdHIGH SOdLOW NYOdHIGH NYO
dLOW DOdHIGH DOdLOW TOdHIGH TOdLOW THOdHIGH THOdLOW NOdHIGH NOdLOW BOdHIGH BOdLOW POdHIGH PO
dLOW PHOdHIGH PHOdLOW FOdHIGH FOdLOW MOdHIGH MOdLOW YOdHIGH YOdLOW ROdHIGH ROdLOW LOdHIGH LO
dLOW VOdHIGH VOdLOW HOdHIGH HOdLOW OdHIGH OcMAI KANGcVOWEL AAdIdUEdUdEdOcMAI KHITcVOWEL IAdUEAdUA
dAUEdAYdANdAMcTONE MAI EKeNUENGeTHOeSONG:AADBaTAI VIET SYMBOL KONdNUENGdSAMdHO HOIdKOI KOI
aMEETEI MAYEK LETTER EdOdCHAdNYAdTTAdTTHAdDDAdDDHAdNNAdSHAdSSAcVOWEL SIGN IIeUUeAAIeAUeAAU
cCHEIKHANcAHANG KHUDAMcANJIcSYLLABLE REPETITION MARKcWORD REPETITION MARKcVOWEL SIGN VISARGA
cVIRAMA:AB01aETHIOPIC SYLLABLE TTHUcTTHIcTTHAAcTTHEEcTTHEcTTHO:AB09aETHIOPIC SYLLABLE DDHUcDDHI
cDDHAAcDDHEEcDDHEcDDHO:AB11aETHIOPIC SYLLABLE DZUcDZIcDZAAcDZEEcDZEcDZO:AB20
aETHIOPIC SYLLABLE CCHHAcCCHHUcCCHHIcCCHHAAcCCHHEEcCCHHEcCCHHO:AB28aETHIOPIC SYLLABLE BBAcBBUcBBI
cBBAAcBBEEcBBEcBBO:AB30aLATIN SMALL LETTER BARRED ALPHAdA REVERSED-SCHWAdBLACKLETTER EdBARRED E
dE WITH FLOURISHdLENIS FdSCRIPT G WITH CROSSED-TAILdL WITH INVERTED LAZY SfDOUBLE MIDDLE TILDE
fMIDDLE RINGdM WITH CROSSED-TAILdN WITH CROSSED-TAILdENG WITH CROSSED-TAILdBLACKLETTER O
fWITH STROKEdOPEN O WITH STROKEdINVERTED OEdTURNED OE WITH STROKEgHORIZONTAL STROKEeO OPEN-O
gWITH STROKEdSTIRRUP RbLETTER SMALL CAPITAL R WITH RIGHT LEGbSMALL LETTER R WITHOUT HANDLE
dDOUBLE RdR WITH CROSSED-TAILdDOUBLE R WITH CROSSED-TAILdSCRIPT RfWITH RINGdBASELINE ESH
dU WITH SHORT RIGHT LEGeBAR WITH SHORT RIGHT LEGdUIdTURNED UIdU WITH LEFT HOOKdCHI
eWITH LOW RIGHT RINGgLEFT SERIFdX WITH LOW RIGHT RINGfLONG LEFT LEGiAND LOW RIGHT RINGiWITH SERIF
dY WITH SHORT RIGHT LEGaMODIFIER BREVE WITH INVERTED BREVEbLETTER SMALL HENG
dL WITH INVERTED LAZY SfMIDDLE TILDEdU WITH LEFT HOOKaLATIN SMALL LETTER SAKHA YATdIOTIFIED E
dOPEN OEdUOdINVERTED ALPHAaGREEK LETTER SMALL CAPITAL OMEGA
aLATIN SMALL LETTER DZ DIGRAPH WITH RETROFLEX HOOKdTS DIGRAPH WITH RETROFLEX HOOK
dTURNED R WITH MIDDLE TILDEaMODIFIER LETTER SMALL TURNED WcLEFT TACKcRIGHT TACK:AB70
aCHEROKEE SMALL LETTER AdEdIdOdUdVdGAdKAdGEdGIdGOdGUdGVdHAdHEdHIdHOdHUdHVdLAdLEdLIdLOdLUdLVdMAdME
dMIdMOdMUdNAdHNAdNAHdNEdNIdNOdNUdNVdQUAdQUEdQUIdQUOdQUUdQUVdSAdSdSEdSIdSOdSUdSVdDAdTAdDEdTEdDIdTI
dDOdDUdDVdDLAdTLAdTLEdTLIdTLOdTLUdTLVdTSAdTSEdTSIdTSOdTSUdTSVdWAdWEdWIdWOdWUdWVdYA
aMEETEI MAYEK LETTER KOKdSAMdLAIdMITdPAdNAdCHILdTILdKHOUdNGOUdTHOUdWAIdYANGdHUKdUNdIdPHAMdATIYA
dGOKdJHAMdRAIdBAdJILdDILdGHOUdDHOUdBHAMdKOK LONSUMdLAI LONSUMdMIT LONSUMdPA LONSUMdNA LONSUM
dTIL LONSUMdNGOU LONSUMdI LONSUMcVOWEL SIGN ONAPeINAPeANAPeYENAPeSOUNAPeUNAPeCHEINAPeNUNGcCHEIKHEI
cLUM IYEKcAPUN IYEK:ABF0aMEETEI MAYEK DIGIT ZEROdONEdTWOdTHREEdFOURdFIVEdSIXdSEVENdEIGHTdNINE:D7B0
aHANGUL JUNGSEONG O-YEOcO-O-IcYO-AcYO-AEcYO-EOcU-YEOcU-I-IcYU-AEcYU-OcEU-AcEU-EOcEU-EcEU-OcI-YA-O
cI-YAEcI-YEOcI-YEcI-O-IcI-YOcI-YUcI-IcARAEA-AcARAEA-E:D7CBaHANGUL JONGSEONG NIEUN-RIEUL
cNIEUN-CHIEUCHcSSANGTIKEUTcSSANGTIKEUT-PIEUPcTIKEUT-PIEUPcTIKEUT-SIOScTIKEUT-SIOS-KIYEOK
cTIKEUT-CIEUCcTIKEUT-CHIEUCHcTIKEUT-THIEUTHcRIEUL-SSANGKIYEOKcRIEUL-KIYEOK-HIEUH
cSSANGRIEUL-KHIEUKHcRIEUL-MIEUM-HIEUHcRIEUL-PIEUP-TIKEUTcRIEUL-PIEUP-PHIEUPHcRIEUL-YESIEUNG
cRIEUL-YEORINHIEUH-HIEUHcKAPYEOUNRIEULcMIEUM-NIEUNcMIEUM-SSANGNIEUNcSSANGMIEUMcMIEUM-PIEUP-SIOS
cMIEUM-CIEUCcPIEUP-TIKEUTcPIEUP-RIEUL-PHIEUPHcPIEUP-MIEUMcSSANGPIEUPcPIEUP-SIOS-TIKEUTcPIEUP-CIEUC
cPIEUP-CHIEUCHcSIOS-MIEUMcSIOS-KAPYEOUNPIEUPcSSANGSIOS-KIYEOKcSSANGSIOS-TIKEUTcSIOS-PANSIOS
cSIOS-CIEUCcSIOS-CHIEUCHcSIOS-THIEUTHcSIOS-HIEUHcPANSIOS-PIEUPcPANSIOS-KAPYEOUNPIEUP
cYESIEUNG-MIEUMcYESIEUNG-HIEUHcCIEUC-PIEUPcCIEUC-SSANGPIEUPcSSANGCIEUCcPHIEUPH-SIOS
cPHIEUPH-THIEUTH"

end TicketMigration.CharacterName
