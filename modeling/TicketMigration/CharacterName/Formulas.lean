/-!
# Names of characters: formulas

Music, letters for formulas, and writing by gestures.

## Main definitions

* `formulas` is the table.
-/

namespace TicketMigration.CharacterName

/-- The table.  Behind a colon stands the code of a character.  Each name begins with a small
letter, which says how many words it has in common with the name before, and is the name of the
next code. -/
def formulas : String :=
  ":1D000aBYZANTINE MUSICAL SYMBOL PSILIdDASEIAdPERISPOMENIdOXEIA EKFONITIKONeDIPLI
dVAREIA EKFONITIKONeDIPLIdKATHISTIdSYRMATIKIdPARAKLITIKIdYPOKRISISeDIPLIdKREMASTI
dAPESO EKFONITIKONdEXO EKFONITIKONdTELEIAdKENTIMATAdAPOSTROFOSeDIPLIdSYNEVMAdTHITAdOLIGON ARCHAION
dGORGON ARCHAIONdPSILONdCHAMILONdVATHYdISON ARCHAIONdKENTIMA ARCHAIONdKENTIMATA ARCHAIONdSAXIMATA
dPARICHONdSTAVROS APODEXIAdOXEIAI ARCHAIONdVAREIAI ARCHAIONdAPODERMA ARCHAIONdAPOTHEMAdKLASMA
dREVMAdPIASMA ARCHAIONdTINAGMAdANATRICHISMAdSEISMAdSYNAGMA ARCHAIONeMETA STAVROU
dOYRANISMA ARCHAIONdTHEMAdLEMOIdDYOdTRIAdTESSERAdKRATIMATAdAPESO EXO NEOdFTHORA ARCHAIONdIMIFTHORA
dTROMIKON ARCHAIONdKATAVA TROMIKONdPELASTONdPSIFISTONdKONTEVMAdCHOREVMA ARCHAIONdRAPISMA
dPARAKALESMA ARCHAIONdPARAKLITIKI ARCHAIONdICHADINdNANAdPETASMAdKONTEVMA ALLOdTROMIKON ALLO
dSTRAGGISMATAdGRONTHISMATAdISON NEOdOLIGON NEOdOXEIA NEOdPETASTIdKOUFISMAdPETASTOKOUFISMA
dKRATIMOKOUFISMAdPELASTON NEOdKENTIMATA NEO ANOdKENTIMA NEO ANOdYPSILIdAPOSTROFOS NEO
dAPOSTROFOI SYNDESMOS NEOdYPORROIdKRATIMOYPORROONdELAFRONdCHAMILIdMIKRON ISONdVAREIA NEO
dPIASMA NEOdPSIFISTON NEOdOMALONdANTIKENOMAdLYGISMAdPARAKLITIKI NEOdPARAKALESMA NEO
dETERON PARAKALESMAdKYLISMAdANTIKENOKYLISMAdTROMIKON NEOdEKSTREPTONdSYNAGMA NEOdSYRMAdCHOREVMA NEO
dEPEGERMAdSEISMA NEOdXIRON KLASMAdTROMIKOPSIFISTONdPSIFISTOLYGISMAdTROMIKOLYGISMA
dTROMIKOPARAKALESMAdPSIFISTOPARAKALESMAdTROMIKOSYNAGMAdPSIFISTOSYNAGMAdGORGOSYNTHETON
dARGOSYNTHETONdETERON ARGOSYNTHETONdOYRANISMA NEOdTHEMATISMOS ESOeEXOdTHEMA APLOUN
dTHES KAI APOTHESdKATAVASMAdENDOFONONdYFEN KATOeANOdSTAVROSdKLASMA ANOdDIPLI ARCHAION
dKRATIMA ARCHAIONeALLOeNEOdAPODERMA NEOdAPLIdDIPLIdTRIPLIdTETRAPLIdKORONISdLEIMMA ENOS CHRONOU
eDYO CHRONONeTRION CHRONONeTESSARON CHRONONeIMISEOS CHRONOUdGORGON NEO ANOePARESTIGMENON ARISTERA
fDEXIAdDIGORGONePARESTIGMENON ARISTERA KATOgANOfDEXIAdTRIGORGONdARGONdIMIDIARGONdDIARGON
dAGOGI POLI ARGIeARGOTERIeARGIeMETRIAeMESIeGORGIeGORGOTERIePOLI GORGIdMARTYRIA PROTOS ICHOS
eALLI PROTOS ICHOSeDEYTEROS ICHOSeALLI DEYTEROS ICHOSeTRITOS ICHOSeTRIFONIASeTETARTOS ICHOS
fLEGETOS ICHOSeLEGETOS ICHOSePLAGIOS ICHOSdISAKIA TELOUS ICHIMATOSdAPOSTROFOI TELOUS ICHIMATOS
dFANEROSIS TETRAFONIASeMONOFONIASeDIFONIASdMARTYRIA VARYS ICHOSePROTOVARYS ICHOS
ePLAGIOS TETARTOS ICHOSdGORTHMIKON N APLOUNfDIPLOUNdENARXIS KAI FTHORA VOUdIMIFONONdIMIFTHORON
dFTHORA ARCHAION DEYTEROU ICHOUeDIATONIKI PAfNANAeNAOS ICHOSeDIATONIKI DIeSKLIRON DIATONON DI
eDIATONIKI KEfZOfNI KATOgANOeMALAKON CHROMA DIFONIASgMONOFONIASdFHTORA SKLIRON CHROMA VASIS
dFTHORA SKLIRON CHROMA SYNAFIeNENANOdCHROA ZYGOSeKLITONeSPATHIdFTHORA I YFESIS TETARTIMORION
eENARMONIOS ANTIFONIAdYFESIS TRITIMORIONdDIESIS TRITIMORIONeTETARTIMORIONeAPLI DYO DODEKATA
eMONOGRAMMOS TESSERA DODEKATAeDIGRAMMOS EX DODEKATAeTRIGRAMMOS OKTO DODEKATA
dYFESIS APLI DYO DODEKATAeMONOGRAMMOS TESSERA DODEKATAeDIGRAMMOS EX DODEKATA
eTRIGRAMMOS OKTO DODEKATAdGENIKI DIESISeYFESISdDIASTOLI APLI MIKRIfMEGALIeDIPLIeTHESEOS
dSIMANSIS THESEOSfDISIMOUfTRISIMOUfTETRASIMOUeARSEOSfDISIMOUfTRISIMOUfTETRASIMOUdDIGRAMMA GG
dDIFTOGGOS OUdSTIGMAdARKTIKO PAeVOUeGAeDIeKEeZOeNIdKENTIMATA NEO MESOdKENTIMA NEO MESO
dKENTIMATA NEO KATOdKENTIMA NEO KATOdKLASMA KATOdGORGON NEO KATO:1D100
aMUSICAL SYMBOL SINGLE BARLINEcDOUBLE BARLINEcFINAL BARLINEcREVERSE FINAL BARLINEcDASHED BARLINE
cSHORT BARLINEcLEFT REPEAT SIGNcRIGHT REPEAT SIGNcREPEAT DOTScDAL SEGNOcDA CAPOcSEGNOcCODA
cREPEATED FIGURE-1dFIGURE-2dFIGURE-3cFERMATAdBELOWcBREATH MARKcCAESURAcBRACEcBRACKET
cONE-LINE STAFFcTWO-LINE STAFFcTHREE-LINE STAFFcFOUR-LINE STAFFcFIVE-LINE STAFFcSIX-LINE STAFF
cSIX-STRING FRETBOARDcFOUR-STRING FRETBOARDcG CLEFeOTTAVA ALTAfBASSAcC CLEFcF CLEFeOTTAVA ALTA
fBASSAcDRUM CLEF-1dCLEF-2:1D129aMUSICAL SYMBOL MULTIPLE MEASURE RESTcDOUBLE SHARPdFLATcFLAT UP
dDOWNcNATURAL UPdDOWNcSHARP UPdDOWNcQUARTER TONE SHARPeFLATcCOMMON TIMEcCUT TIMEcOTTAVA ALTAdBASSA
cQUINDICESIMA ALTAdBASSAcMULTI RESTcWHOLE RESTcHALF RESTcQUARTER RESTcEIGHTH RESTcSIXTEENTH REST
cTHIRTY-SECOND RESTcSIXTY-FOURTH RESTcONE HUNDRED TWENTY-EIGHTH RESTcX NOTEHEADcPLUS NOTEHEAD
cCIRCLE X NOTEHEADcSQUARE NOTEHEAD WHITEeBLACKcTRIANGLE NOTEHEAD UP WHITEfBLACKeLEFT WHITEfBLACK
eRIGHT WHITEfBLACKeDOWN WHITEfBLACKeUP RIGHT WHITEgBLACKcMOON NOTEHEAD WHITEeBLACK
cTRIANGLE-ROUND NOTEHEAD DOWN WHITEfBLACKcPARENTHESIS NOTEHEADcVOID NOTEHEADcNOTEHEAD BLACK
cNULL NOTEHEADcCLUSTER NOTEHEAD WHITEeBLACKcBREVEcWHOLE NOTEcHALF NOTEcQUARTER NOTEcEIGHTH NOTE
cSIXTEENTH NOTEcTHIRTY-SECOND NOTEcSIXTY-FOURTH NOTEcONE HUNDRED TWENTY-EIGHTH NOTEcCOMBINING STEM
dSPRECHGESANG STEMdTREMOLO-1dTREMOLO-2dTREMOLO-3cFINGERED TREMOLO-1dTREMOLO-2dTREMOLO-3
cCOMBINING AUGMENTATION DOTdFLAG-1dFLAG-2dFLAG-3dFLAG-4dFLAG-5cBEGIN BEAMcEND BEAMcBEGIN TIE
cEND TIEcBEGIN SLURcEND SLURcBEGIN PHRASEcEND PHRASEcCOMBINING ACCENTdSTACCATOdTENUTO
dSTACCATISSIMOdMARCATOdMARCATO-STACCATOdACCENT-STACCATOdLOUREcARPEGGIATO UPdDOWNcCOMBINING DOIT
dRIPdFLIPdSMEARdBENDdDOUBLE TONGUEdTRIPLE TONGUEcRINFORZANDOcSUBITOcZcPIANOcMEZZOcFORTEcCRESCENDO
cDECRESCENDOcGRACE NOTE SLASHeNO SLASHcTRcTURNcINVERTED TURNcTURN SLASHdUPcORNAMENT STROKE-1
dSTROKE-2dSTROKE-3dSTROKE-4dSTROKE-5dSTROKE-6dSTROKE-7dSTROKE-8dSTROKE-9dSTROKE-10dSTROKE-11
cHAUPTSTIMMEcNEBENSTIMMEcEND OF STIMMEcDEGREE SLASHcCOMBINING DOWN BOWdUP BOWdHARMONIC
dSNAP PIZZICATOcPEDAL MARKdUP MARKcHALF PEDAL MARKcGLISSANDO UPdDOWNcWITH FINGERNAILScDAMPdALL
cMAXIMAcLONGAcBREVIScSEMIBREVIS WHITEdBLACKcMINIMAdBLACKcSEMIMINIMA WHITEdBLACKcFUSA WHITEdBLACK
cLONGA PERFECTA RESTdIMPERFECTA RESTcBREVIS RESTcSEMIBREVIS RESTcMINIMA RESTcSEMIMINIMA REST
cTEMPUS PERFECTUM CUM PROLATIONE PERFECTAgIMPERFECTAgPERFECTA DIMINUTION-1
dIMPERFECTUM CUM PROLATIONE PERFECTAgIMPERFECTAhDIMINUTION-1hDIMINUTION-2hDIMINUTION-3cCROIX
cGREGORIAN C CLEFdF CLEFcSQUARE BcVIRGAcPODATUScCLIVIScSCANDICUScCLIMACUScTORCULUScPORRECTUS
dFLEXUScSCANDICUS FLEXUScTORCULUS RESUPINUScPES SUBPUNCTIScKIEVAN C CLEFdEND OF PIECEdFINAL NOTE
dRECITATIVE MARKdWHOLE NOTEdHALF NOTEdQUARTER NOTE STEM DOWNgUPdEIGHTH NOTE STEM DOWNgUPdFLAT SIGN
cSORIcKORON:1D200aGREEK VOCAL NOTATION SYMBOL-1dSYMBOL-2dSYMBOL-3dSYMBOL-4dSYMBOL-5dSYMBOL-6
dSYMBOL-7dSYMBOL-8dSYMBOL-9dSYMBOL-10dSYMBOL-11dSYMBOL-12dSYMBOL-13dSYMBOL-14dSYMBOL-15dSYMBOL-16
dSYMBOL-17dSYMBOL-18dSYMBOL-19dSYMBOL-20dSYMBOL-21dSYMBOL-22dSYMBOL-23dSYMBOL-24dSYMBOL-50
dSYMBOL-51dSYMBOL-52dSYMBOL-53dSYMBOL-54bINSTRUMENTAL NOTATION SYMBOL-1dSYMBOL-2dSYMBOL-4dSYMBOL-5
dSYMBOL-7dSYMBOL-8dSYMBOL-11dSYMBOL-12dSYMBOL-13dSYMBOL-14dSYMBOL-17dSYMBOL-18dSYMBOL-19dSYMBOL-23
dSYMBOL-24dSYMBOL-25dSYMBOL-26dSYMBOL-27dSYMBOL-29dSYMBOL-30dSYMBOL-32dSYMBOL-36dSYMBOL-37
dSYMBOL-38dSYMBOL-39dSYMBOL-40dSYMBOL-42dSYMBOL-43dSYMBOL-45dSYMBOL-47dSYMBOL-48dSYMBOL-49
dSYMBOL-50dSYMBOL-51dSYMBOL-52dSYMBOL-53dSYMBOL-54aCOMBINING GREEK MUSICAL TRISEMEdTETRASEME
dPENTASEMEaGREEK MUSICAL LEIMMA:1D2E0aMAYAN NUMERAL ZEROcONEcTWOcTHREEcFOURcFIVEcSIXcSEVENcEIGHT
cNINEcTENcELEVENcTWELVEcTHIRTEENcFOURTEENcFIFTEENcSIXTEENcSEVENTEENcEIGHTEENcNINETEEN:1D300
aMONOGRAM FOR EARTHaDIGRAM FOR HEAVENLY EARTHcHUMAN EARTHcEARTHLY HEAVENdHUMANcEARTH
aTETRAGRAM FOR CENTREcFULL CIRCLEcMIREDcBARRIERcKEEPING SMALLcCONTRARIETYcASCENTcOPPOSITION
cBRANCHING OUTcDEFECTIVENESS OR DISTORTIONcDIVERGENCEcYOUTHFULNESScINCREASEcPENETRATIONcREACH
cCONTACTcHOLDING BACKcWAITINGcFOLLOWINGcADVANCEcRELEASEcRESISTANCEcEASEcJOYcCONTENTIONcENDEAVOUR
cDUTIEScCHANGEcDECISIVENESScBOLD RESOLUTIONcPACKINGcLEGIONcCLOSENESScKINSHIPcGATHERINGcSTRENGTH
cPURITYcFULLNESScRESIDENCEcLAW OR MODELcRESPONSEcGOING TO MEETcENCOUNTERScSTOVEcGREATNESS
cENLARGEMENTcPATTERNcRITUALcFLIGHTcVASTNESS OR WASTINGcCONSTANCYcMEASUREcETERNITYcUNITY
cDIMINISHMENTcCLOSED MOUTHcGUARDEDNESScGATHERING INcMASSINGcACCUMULATIONcEMBELLISHMENTcDOUBTcWATCH
cSINKINGcINNERcDEPARTUREcDARKENINGcDIMMINGcEXHAUSTIONcSEVERANCEcSTOPPAGEcHARDNESScCOMPLETION
cCLOSUREcFAILUREcAGGRAVATIONcCOMPLIANCEcON THE VERGEcDIFFICULTIEScLABOURINGcFOSTERING:1D360
aCOUNTING ROD UNIT DIGIT ONEeTWOeTHREEeFOUReFIVEeSIXeSEVENeEIGHTeNINEcTENS DIGIT ONEeTWOeTHREE
eFOUReFIVEeSIXeSEVENeEIGHTeNINEaIDEOGRAPHIC TALLY MARK ONEdTWOdTHREEdFOURdFIVEaTALLY MARK ONEcFIVE
:1D400aMATHEMATICAL BOLD CAPITAL AdBdCdDdEdFdGdHdIdJdKdLdMdNdOdPdQdRdSdTdUdVdWdXdYdZcSMALL AdBdCdD
dEdFdGdHdIdJdKdLdMdNdOdPdQdRdSdTdUdVdWdXdYdZbITALIC CAPITAL AdBdCdDdEdFdGdHdIdJdKdLdMdNdOdPdQdRdS
dTdUdVdWdXdYdZcSMALL AdBdCdDdEdFdG:1D456aMATHEMATICAL ITALIC SMALL IdJdKdLdMdNdOdPdQdRdSdTdUdVdWdX
dYdZbBOLD ITALIC CAPITAL AeBeCeDeEeFeGeHeIeJeKeLeMeNeOePeQeReSeTeUeVeWeXeYeZdSMALL AeBeCeDeEeFeGeH
eIeJeKeLeMeNeOePeQeReSeTeUeVeWeXeYeZbSCRIPT CAPITAL A:1D49EaMATHEMATICAL SCRIPT CAPITAL CdD:1D4A2
aMATHEMATICAL SCRIPT CAPITAL G:1D4A5aMATHEMATICAL SCRIPT CAPITAL JdK:1D4A9
aMATHEMATICAL SCRIPT CAPITAL NdOdPdQ:1D4AEaMATHEMATICAL SCRIPT CAPITAL SdTdUdVdWdXdYdZcSMALL AdBdC
dD:1D4BBaMATHEMATICAL SCRIPT SMALL F:1D4BDaMATHEMATICAL SCRIPT SMALL HdIdJdKdLdMdN:1D4C5
aMATHEMATICAL SCRIPT SMALL PdQdRdSdTdUdVdWdXdYdZbBOLD SCRIPT CAPITAL AeBeCeDeEeFeGeHeIeJeKeLeMeNeO
ePeQeReSeTeUeVeWeXeYeZdSMALL AeBeCeDeEeFeGeHeIeJeKeLeMeNeOePeQeReSeTeUeVeWeXeYeZbFRAKTUR CAPITAL A
dB:1D507aMATHEMATICAL FRAKTUR CAPITAL DdEdFdG:1D50DaMATHEMATICAL FRAKTUR CAPITAL JdKdLdMdNdOdPdQ
:1D516aMATHEMATICAL FRAKTUR CAPITAL SdTdUdVdWdXdY:1D51EaMATHEMATICAL FRAKTUR SMALL AdBdCdDdEdFdGdH
dIdJdKdLdMdNdOdPdQdRdSdTdUdVdWdXdYdZbDOUBLE-STRUCK CAPITAL AdB:1D53B
aMATHEMATICAL DOUBLE-STRUCK CAPITAL DdEdFdG:1D540aMATHEMATICAL DOUBLE-STRUCK CAPITAL IdJdKdLdM
:1D546aMATHEMATICAL DOUBLE-STRUCK CAPITAL O:1D54AaMATHEMATICAL DOUBLE-STRUCK CAPITAL SdTdUdVdWdXdY
:1D552aMATHEMATICAL DOUBLE-STRUCK SMALL AdBdCdDdEdFdGdHdIdJdKdLdMdNdOdPdQdRdSdTdUdVdWdXdYdZ
bBOLD FRAKTUR CAPITAL AeBeCeDeEeFeGeHeIeJeKeLeMeNeOePeQeReSeTeUeVeWeXeYeZdSMALL AeBeCeDeEeFeGeHeI
eJeKeLeMeNeOePeQeReSeTeUeVeWeXeYeZbSANS-SERIF CAPITAL AdBdCdDdEdFdGdHdIdJdKdLdMdNdOdPdQdRdSdTdUdV
dWdXdYdZcSMALL AdBdCdDdEdFdGdHdIdJdKdLdMdNdOdPdQdRdSdTdUdVdWdXdYdZcBOLD CAPITAL AeBeCeDeEeFeGeHeI
eJeKeLeMeNeOePeQeReSeTeUeVeWeXeYeZdSMALL AeBeCeDeEeFeGeHeIeJeKeLeMeNeOePeQeReSeTeUeVeWeXeYeZ
cITALIC CAPITAL AeBeCeDeEeFeGeHeIeJeKeLeMeNeOePeQeReSeTeUeVeWeXeYeZdSMALL AeBeCeDeEeFeGeHeIeJeKeL
eMeNeOePeQeReSeTeUeVeWeXeYeZcBOLD ITALIC CAPITAL AfBfCfDfEfFfGfHfIfJfKfLfMfNfOfPfQfRfSfTfUfVfWfXfY
fZeSMALL AfBfCfDfEfFfGfHfIfJfKfLfMfNfOfPfQfRfSfTfUfVfWfXfYfZbMONOSPACE CAPITAL AdBdCdDdEdFdGdHdIdJ
dKdLdMdNdOdPdQdRdSdTdUdVdWdXdYdZcSMALL AdBdCdDdEdFdGdHdIdJdKdLdMdNdOdPdQdRdSdTdUdVdWdXdYdZ
bITALIC SMALL DOTLESS IeJ:1D6A8aMATHEMATICAL BOLD CAPITAL ALPHAdBETAdGAMMAdDELTAdEPSILONdZETAdETA
dTHETAdIOTAdKAPPAdLAMDAdMUdNUdXIdOMICRONdPIdRHOdTHETA SYMBOLdSIGMAdTAUdUPSILONdPHIdCHIdPSIdOMEGA
cNABLAcSMALL ALPHAdBETAdGAMMAdDELTAdEPSILONdZETAdETAdTHETAdIOTAdKAPPAdLAMDAdMUdNUdXIdOMICRONdPI
dRHOdFINAL SIGMAdSIGMAdTAUdUPSILONdPHIdCHIdPSIdOMEGAcPARTIAL DIFFERENTIALcEPSILON SYMBOL
cTHETA SYMBOLcKAPPA SYMBOLcPHI SYMBOLcRHO SYMBOLcPI SYMBOLbITALIC CAPITAL ALPHAdBETAdGAMMAdDELTA
dEPSILONdZETAdETAdTHETAdIOTAdKAPPAdLAMDAdMUdNUdXIdOMICRONdPIdRHOdTHETA SYMBOLdSIGMAdTAUdUPSILON
dPHIdCHIdPSIdOMEGAcNABLAcSMALL ALPHAdBETAdGAMMAdDELTAdEPSILONdZETAdETAdTHETAdIOTAdKAPPAdLAMDAdMU
dNUdXIdOMICRONdPIdRHOdFINAL SIGMAdSIGMAdTAUdUPSILONdPHIdCHIdPSIdOMEGAcPARTIAL DIFFERENTIAL
cEPSILON SYMBOLcTHETA SYMBOLcKAPPA SYMBOLcPHI SYMBOLcRHO SYMBOLcPI SYMBOL
bBOLD ITALIC CAPITAL ALPHAeBETAeGAMMAeDELTAeEPSILONeZETAeETAeTHETAeIOTAeKAPPAeLAMDAeMUeNUeXI
eOMICRONePIeRHOeTHETA SYMBOLeSIGMAeTAUeUPSILONePHIeCHIePSIeOMEGAdNABLAdSMALL ALPHAeBETAeGAMMA
eDELTAeEPSILONeZETAeETAeTHETAeIOTAeKAPPAeLAMDAeMUeNUeXIeOMICRONePIeRHOeFINAL SIGMAeSIGMAeTAU
eUPSILONePHIeCHIePSIeOMEGAdPARTIAL DIFFERENTIALdEPSILON SYMBOLdTHETA SYMBOLdKAPPA SYMBOL
dPHI SYMBOLdRHO SYMBOLdPI SYMBOLbSANS-SERIF BOLD CAPITAL ALPHAeBETAeGAMMAeDELTAeEPSILONeZETAeETA
eTHETAeIOTAeKAPPAeLAMDAeMUeNUeXIeOMICRONePIeRHOeTHETA SYMBOLeSIGMAeTAUeUPSILONePHIeCHIePSIeOMEGA
dNABLAdSMALL ALPHAeBETAeGAMMAeDELTAeEPSILONeZETAeETAeTHETAeIOTAeKAPPAeLAMDAeMUeNUeXIeOMICRONePI
eRHOeFINAL SIGMAeSIGMAeTAUeUPSILONePHIeCHIePSIeOMEGAdPARTIAL DIFFERENTIALdEPSILON SYMBOL
dTHETA SYMBOLdKAPPA SYMBOLdPHI SYMBOLdRHO SYMBOLdPI SYMBOLdITALIC CAPITAL ALPHAfBETAfGAMMAfDELTA
fEPSILONfZETAfETAfTHETAfIOTAfKAPPAfLAMDAfMUfNUfXIfOMICRONfPIfRHOfTHETA SYMBOLfSIGMAfTAUfUPSILON
fPHIfCHIfPSIfOMEGAeNABLAeSMALL ALPHAfBETAfGAMMAfDELTAfEPSILONfZETAfETAfTHETAfIOTAfKAPPAfLAMDAfMU
fNUfXIfOMICRONfPIfRHOfFINAL SIGMAfSIGMAfTAUfUPSILONfPHIfCHIfPSIfOMEGAePARTIAL DIFFERENTIAL
eEPSILON SYMBOLeTHETA SYMBOLeKAPPA SYMBOLePHI SYMBOLeRHO SYMBOLePI SYMBOLbBOLD CAPITAL DIGAMMA
cSMALL DIGAMMA:1D7CEaMATHEMATICAL BOLD DIGIT ZEROdONEdTWOdTHREEdFOURdFIVEdSIXdSEVENdEIGHTdNINE
bDOUBLE-STRUCK DIGIT ZEROdONEdTWOdTHREEdFOURdFIVEdSIXdSEVENdEIGHTdNINEbSANS-SERIF DIGIT ZEROdONE
dTWOdTHREEdFOURdFIVEdSIXdSEVENdEIGHTdNINEcBOLD DIGIT ZEROeONEeTWOeTHREEeFOUReFIVEeSIXeSEVENeEIGHT
eNINEbMONOSPACE DIGIT ZEROdONEdTWOdTHREEdFOURdFIVEdSIXdSEVENdEIGHTdNINE
aSIGNWRITING HAND-FIST INDEXbHAND-CIRCLE INDEXbHAND-CUP INDEXbHAND-OVAL INDEXbHAND-HINGE INDEX
bHAND-ANGLE INDEXbHAND-FIST INDEX BENTbHAND-CIRCLE INDEX BENTbHAND-FIST THUMB UNDER INDEX BENT
cINDEX RAISED KNUCKLEdCUPPEDdHINGEDeLOWbHAND-CIRCLE INDEX HINGEbHAND-FIST INDEX MIDDLE
bHAND-CIRCLE INDEX MIDDLEbHAND-FIST INDEX MIDDLE BENTeRAISED KNUCKLESeHINGEDdUP MIDDLE HINGED
dHINGED MIDDLE UPdMIDDLE CONJOINEDfINDEX BENTfMIDDLE BENTfCUPPEDfHINGEDeCROSSED
bHAND-CIRCLE INDEX MIDDLE CROSSEDbHAND-FIST MIDDLE BENT OVER INDEXcINDEX BENT OVER MIDDLE
dMIDDLE THUMBbHAND-CIRCLE INDEX MIDDLE THUMBbHAND-FIST INDEX MIDDLE STRAIGHT THUMB BENT
eBENT THUMB STRAIGHTeTHUMB BENTeHINGED SPREAD THUMB SIDEdUP MIDDLE HINGED THUMB SIDEhCONJOINED
dHINGED MIDDLE UP THUMB SIDEdMIDDLE UP SPREAD THUMB FORWARDeTHUMB CUPPEDfCIRCLEDfHOOKEDfHINGED
cTHUMB BETWEEN INDEX MIDDLE STRAIGHTcINDEX MIDDLE CONJOINED THUMB SIDEhCONJOINEDhBENT
cMIDDLE THUMB HOOKED INDEX UPcINDEX THUMB HOOKED MIDDLE UPdMIDDLE CONJOINED HINGED THUMB SIDE
eCROSSED THUMB SIDEeCONJOINED THUMB FORWARDfCUPPED THUMB FORWARDcMIDDLE THUMB CUPPED INDEX UP
cINDEX THUMB CUPPED MIDDLE UPcMIDDLE THUMB CIRCLED INDEX UPgHINGED
cINDEX THUMB ANGLED OUT MIDDLE UPfIN MIDDLE UPeCIRCLED MIDDLE UPdMIDDLE THUMB CONJOINED HINGED
fANGLED OUTfANGLEDcMIDDLE THUMB ANGLED OUT INDEX UPhCROSSEDfINDEX UP
cINDEX THUMB HOOKED MIDDLE HINGEDbHAND-FLAT FOUR FINGERSeBENTeHINGEDeCONJOINEDfSPLIT
bHAND-CLAW FOUR FINGERS CONJOINEDbHAND-FIST FOUR FINGERS CONJOINED BENT
bHAND-HINGE FOUR FINGERS CONJOINEDbHAND-FLAT FIVE FINGERS SPREADcHEEL FIVE FINGERS SPREAD
cFIVE FINGERS SPREAD FOUR BENTcHEEL FIVE FINGERS SPREAD FOUR BENTcFIVE FINGERS SPREAD BENT
cHEEL FIVE FINGERS SPREAD BENTcFIVE FINGERS SPREAD THUMB FORWARDbHAND-CUP FIVE FINGERS SPREADfOPEN
bHAND-HINGE FIVE FINGERS SPREAD OPENbHAND-OVAL FIVE FINGERS SPREAD
bHAND-FLAT FIVE FINGERS SPREAD HINGEDgTHUMB SIDEgNO THUMBbHAND-FLATcBETWEEN PALM FACINGScHEEL
cTHUMB SIDEcHEEL THUMB SIDEcTHUMB BENTdFORWARDcSPLIT INDEX THUMB SIDEdCENTREeTHUMB SIDEgBENT
dLITTLEbHAND-CLAWcTHUMB SIDEcNO THUMBcTHUMB FORWARDbHAND-HOOK CURLICUEbHAND-HOOKbHAND-CUP OPEN
bHAND-CUPcOPEN THUMB SIDEcTHUMB SIDEcOPEN NO THUMBcNO THUMBcOPEN THUMB FORWARDcTHUMB FORWARD
bHAND-CURLICUE OPENbHAND-CURLICUEbHAND-CIRCLEbHAND-OVALcTHUMB SIDEcNO THUMBcTHUMB FORWARD
bHAND-HINGE OPENdTHUMB FORWARDbHAND-HINGEcSMALLcOPEN THUMB SIDEcTHUMB SIDEcOPEN NO THUMBcNO THUMB
cTHUMB SIDE TOUCHING INDEXdBETWEEN MIDDLE RINGbHAND-ANGLEbHAND-FIST INDEX MIDDLE RING
bHAND-CIRCLE INDEX MIDDLE RINGbHAND-HINGE INDEX MIDDLE RINGbHAND-ANGLE INDEX MIDDLE RING
bHAND-HINGE LITTLEbHAND-FIST INDEX MIDDLE RING BENTfCONJOINED
bHAND-HINGE INDEX MIDDLE RING CONJOINEDbHAND-FIST LITTLE DOWNeRIPPLE STRAIGHTfCURVED
eOTHERS CIRCLEDdUPcTHUMB UNDER LITTLE UPbHAND-CIRCLE LITTLE UPbHAND-OVAL LITTLE UP
bHAND-ANGLE LITTLE UPbHAND-FIST LITTLE RAISED KNUCKLEdBENTdTOUCHES THUMBdTHUMB
bHAND-HINGE LITTLE THUMBbHAND-FIST LITTLE INDEX THUMBbHAND-HINGE LITTLE INDEX THUMB
bHAND-ANGLE LITTLE INDEX THUMB INDEX THUMB OUTgTHUMBbHAND-FIST LITTLE INDEX
bHAND-CIRCLE LITTLE INDEXbHAND-HINGE LITTLE INDEXbHAND-ANGLE LITTLE INDEX
bHAND-FIST INDEX MIDDLE LITTLEbHAND-CIRCLE INDEX MIDDLE LITTLEbHAND-HINGE INDEX MIDDLE LITTLEcRING
bHAND-ANGLE INDEX MIDDLE LITTLEbHAND-FIST INDEX MIDDLE CROSS LITTLE
bHAND-CIRCLE INDEX MIDDLE CROSS LITTLEbHAND-FIST RING DOWN
bHAND-HINGE RING DOWN INDEX THUMB HOOK MIDDLEbHAND-ANGLE RING DOWN MIDDLE THUMB INDEX CROSS
bHAND-FIST RING UPdRAISED KNUCKLEdLITTLEbHAND-CIRCLE RING LITTLEbHAND-OVAL RING LITTLE
bHAND-ANGLE RING LITTLEbHAND-FIST RING MIDDLEeCONJOINEDeRAISED KNUCKLESdINDEXdTHUMB
bHAND-HOOK RING THUMBbHAND-FIST INDEX RING LITTLEbHAND-CIRCLE INDEX RING LITTLE
bHAND-CURLICUE INDEX RING LITTLE ONbHAND-HOOK INDEX RING LITTLE OUTfINfUNDER
bHAND-CUP INDEX RING LITTLEbHAND-HINGE INDEX RING LITTLEbHAND-ANGLE INDEX RING LITTLE OUTeLITTLE
bHAND-FIST MIDDLE DOWNbHAND-HINGE MIDDLEbHAND-FIST MIDDLE UPbHAND-CIRCLE MIDDLE UP
bHAND-FIST MIDDLE RAISED KNUCKLEdUP THUMB SIDEbHAND-HOOK MIDDLE THUMB
bHAND-FIST MIDDLE THUMB LITTLEdLITTLEdRING LITTLEbHAND-CIRCLE MIDDLE RING LITTLE
bHAND-CURLICUE MIDDLE RING LITTLE ONbHAND-CUP MIDDLE RING LITTLEbHAND-HINGE MIDDLE RING LITTLE
bHAND-ANGLE MIDDLE RING LITTLE OUTfINeLITTLEbHAND-CIRCLE MIDDLE RING LITTLE BENT
bHAND-CLAW MIDDLE RING LITTLE CONJOINEDgSIDEbHAND-HOOK MIDDLE RING LITTLE CONJOINED OUTgIN
fCONJOINEDbHAND-HINGE INDEX HINGEDbHAND-FIST INDEX THUMB SIDEbHAND-HINGE INDEX THUMB SIDE
bHAND-FIST INDEX THUMB SIDE THUMB DIAGONALgCONJOINEDgBENTfINDEX BENTfBOTH BENTfINDEX HINGE
eFORWARD INDEX STRAIGHTgBENTeHOOKeCURLICUEeCURVE THUMB INSIDE
bHAND-CLAW INDEX THUMB CURVE THUMB INSIDEbHAND-FIST INDEX THUMB CURVE THUMB UNDEReCIRCLE
bHAND-CUP INDEX THUMBeOPENbHAND-HINGE INDEX THUMB OPENeLARGEdTHUMBeSMALL
bHAND-ANGLE INDEX THUMB OUTeINdTHUMBbHAND-FIST THUMBdHEELdSIDE DIAGONALeCONJOINEDeBENTdFORWARD
dBETWEEN INDEX MIDDLEeMIDDLE RINGeRING LITTLEdUNDER TWO FINGERSdOVER TWO FINGERS
dUNDER THREE FINGERSeFOUR FINGERSdOVER FOUR RAISED KNUCKLESbHAND-FISTcHEELbTOUCH SINGLEcMULTIPLE
cBETWEENbGRASP SINGLEcMULTIPLEcBETWEENbSTRIKE SINGLEcMULTIPLEcBETWEENbBRUSH SINGLEcMULTIPLE
cBETWEENbRUB SINGLEcMULTIPLEcBETWEENbSURFACE SYMBOLScBETWEENbSQUEEZE LARGE SINGLEcSMALL SINGLE
cLARGE MULTIPLEcSMALL MULTIPLEcSEQUENTIALbFLICK LARGE SINGLEcSMALL SINGLEcLARGE MULTIPLE
cSMALL MULTIPLEcSEQUENTIALbSQUEEZE FLICK ALTERNATINGbMOVEMENT-HINGE UP DOWN LARGEeSMALLdSEQUENTIAL
cDOWN SEQUENTIALcUP DOWN ALTERNATING LARGEfSMALLcSIDE TO SIDE SCISSORS
bMOVEMENT-WALLPLANE FINGER CONTACTbMOVEMENT-FLOORPLANE FINGER CONTACT
bMOVEMENT-WALLPLANE SINGLE STRAIGHT SMALLeMEDIUMeLARGEeLARGESTdWRIST FLEXcDOUBLE STRAIGHT
dWRIST FLEXdALTERNATINGeWRIST FLEXcCROSScTRIPLE STRAIGHT MOVEMENTdWRIST FLEXdALTERNATING
eWRIST FLEXcBEND SMALLdMEDIUMdLARGEcCORNER SMALLdMEDIUMdLARGEdROTATIONcCHECK SMALLdMEDIUMdLARGE
cBOX SMALLdMEDIUMdLARGEcZIGZAG SMALLdMEDIUMdLARGEcPEAKS SMALLdMEDIUMdLARGE
bTRAVEL-WALLPLANE ROTATION-WALLPLANE SINGLEdDOUBLEdALTERNATINGcROTATION-FLOORPLANE SINGLEdDOUBLE
dALTERNATINGcSHAKINGcARM SPIRAL SINGLEeDOUBLEeTRIPLEbMOVEMENT-DIAGONAL AWAY SMALLdMEDIUMdLARGE
dLARGESTcTOWARDS SMALLdMEDIUMdLARGEdLARGESTcBETWEEN AWAY SMALLeMEDIUMeLARGEeLARGESTdTOWARDS SMALL
eMEDIUMeLARGEeLARGESTbMOVEMENT-FLOORPLANE SINGLE STRAIGHT SMALLeMEDIUMeLARGEeLARGESTdWRIST FLEX
cDOUBLE STRAIGHTdWRIST FLEXdALTERNATINGeWRIST FLEXcCROSScTRIPLE STRAIGHT MOVEMENTdWRIST FLEX
dALTERNATING MOVEMENTeWRIST FLEXcBENDcCORNER SMALLdMEDIUMdLARGEcCHECKcBOX SMALLdMEDIUMdLARGE
cZIGZAG SMALLdMEDIUMdLARGEcPEAKS SMALLdMEDIUMdLARGEbTRAVEL-FLOORPLANE ROTATION-FLOORPLANE SINGLE
dDOUBLEdALTERNATINGcROTATION-WALLPLANE SINGLEdDOUBLEdALTERNATINGcSHAKING
bMOVEMENT-WALLPLANE CURVE QUARTER SMALLeMEDIUMeLARGEeLARGESTdHALF-CIRCLE SMALLeMEDIUMeLARGE
eLARGESTdTHREE-QUARTER CIRCLE SMALLfMEDIUMcHUMP SMALLdMEDIUMdLARGEcLOOP SMALLdMEDIUMdLARGE
dSMALL DOUBLEcWAVE CURVE DOUBLE SMALLfMEDIUMfLARGEeTRIPLE SMALLfMEDIUMfLARGEcCURVE THEN STRAIGHT
cCURVED CROSS SMALLeMEDIUMbROTATION-WALLPLANE SINGLEcDOUBLEcALTERNATEbMOVEMENT-WALLPLANE SHAKING
cCURVE HITTING FRONT WALLcHUMP HITTING FRONT WALLcLOOP HITTING FRONT WALLcWAVE HITTING FRONT WALL
bROTATION-WALLPLANE SINGLE HITTING FRONT WALLcDOUBLE HITTING FRONT WALL
cALTERNATING HITTING FRONT WALLbMOVEMENT-WALLPLANE CURVE HITTING CHESTcHUMP HITTING CHEST
cLOOP HITTING CHESTcWAVE HITTING CHESTbROTATION-WALLPLANE SINGLE HITTING CHEST
cDOUBLE HITTING CHESTcALTERNATING HITTING CHESTbMOVEMENT-WALLPLANE WAVE DIAGONAL PATH SMALLfMEDIUM
fLARGEbMOVEMENT-FLOORPLANE CURVE HITTING CEILING SMALLfLARGEcHUMP HITTING CEILING SMALL DOUBLE
fLARGE DOUBLEfSMALL TRIPLEfLARGE TRIPLEcLOOP HITTING CEILING SMALL SINGLEfLARGE SINGLE
fSMALL DOUBLEfLARGE DOUBLEcWAVE HITTING CEILING SMALLfLARGE
bROTATION-FLOORPLANE SINGLE HITTING CEILINGcDOUBLE HITTING CEILINGcALTERNATING HITTING CEILING
bMOVEMENT-FLOORPLANE CURVE HITTING FLOOR SMALLfLARGEcHUMP HITTING FLOOR SMALL DOUBLEfLARGE DOUBLE
fTRIPLE SMALL TRIPLEgLARGE TRIPLEcLOOP HITTING FLOOR SMALL SINGLEfLARGE SINGLEfSMALL DOUBLE
fLARGE DOUBLEcWAVE HITTING FLOOR SMALLfLARGEbROTATION-FLOORPLANE SINGLE HITTING FLOOR
cDOUBLE HITTING FLOORcALTERNATING HITTING FLOORbMOVEMENT-FLOORPLANE CURVE SMALLdMEDIUMdLARGE
dLARGESTdCOMBINEDcHUMP SMALLcLOOP SMALLcWAVE SNAKEdSMALLdLARGEbROTATION-FLOORPLANE SINGLEcDOUBLE
cALTERNATINGbMOVEMENT-FLOORPLANE SHAKING PARALLELbMOVEMENT-WALLPLANE ARM CIRCLE SMALL SINGLE
eMEDIUM SINGLEeSMALL DOUBLEeMEDIUM DOUBLEbMOVEMENT-FLOORPLANE ARM CIRCLE HITTING WALL SMALL SINGLE
gMEDIUM SINGLEgLARGE SINGLEgSMALL DOUBLEgMEDIUM DOUBLEgLARGE DOUBLE
bMOVEMENT-WALLPLANE WRIST CIRCLE FRONT SINGLEfDOUBLE
bMOVEMENT-FLOORPLANE WRIST CIRCLE HITTING WALL SINGLEgDOUBLE
bMOVEMENT-WALLPLANE FINGER CIRCLES SINGLEeDOUBLE
bMOVEMENT-FLOORPLANE FINGER CIRCLES HITTING WALL SINGLEgDOUBLEbDYNAMIC ARROWHEAD SMALLdLARGEcFAST
cSLOWcTENSEcRELAXEDcSIMULTANEOUSdALTERNATINGcEVERY OTHER TIMEcGRADUALbHEADcRIM
cMOVEMENT-WALLPLANE STRAIGHTdTILTcMOVEMENT-FLOORPLANE STRAIGHTcMOVEMENT-WALLPLANE CURVE
cMOVEMENT-FLOORPLANE CURVEcMOVEMENT CIRCLEbFACE DIRECTION POSITION NOSE FORWARD TILTINGfUP OR DOWN
iTILTINGbEYEBROWS STRAIGHT UPdNEUTRALdDOWNbDREAMY EYEBROWS NEUTRAL DOWNdDOWN NEUTRALdUP NEUTRAL
dNEUTRAL UPbFOREHEAD NEUTRALcCONTACTcWRINKLEDbEYES OPENcSQUEEZEDcCLOSEDbEYE BLINK SINGLEdMULTIPLE
bEYES HALF OPENcWIDE OPENcHALF CLOSEDcWIDENING MOVEMENTbEYE WINKbEYELASHES UPcDOWNcFLUTTERING
bEYEGAZE-WALLPLANE STRAIGHTdDOUBLEdALTERNATINGbEYEGAZE-FLOORPLANE STRAIGHTdDOUBLEdALTERNATING
bEYEGAZE-WALLPLANE CURVEDbEYEGAZE-FLOORPLANE CURVEDbEYEGAZE-WALLPLANE CIRCLINGbCHEEKS PUFFED
cNEUTRALcSUCKEDbTENSE CHEEKS HIGHdMIDDLEdLOWbEARSbNOSE NEUTRALcCONTACTcWRINKLEScWIGGLES
bAIR BLOWING OUTcSUCKING INcBLOW SMALL ROTATIONScSUCK SMALL ROTATIONSbBREATH INHALEcEXHALE
bMOUTH CLOSED NEUTRALdFORWARDdCONTACTcSMILEdWRINKLEDdOPENcFROWNdWRINKLEDdOPENcOPEN CIRCLEdFORWARD
dWRINKLEDdOVALeWRINKLEDeYAWNdRECTANGLEeWRINKLEDeYAWNcKISSdFORWARDdWRINKLEDcTENSEdFORWARDdSUCKED
bLIPS PRESSED TOGETHERbLIP LOWER OVER UPPERcUPPER OVER LOWERbMOUTH CORNERScWRINKLES SINGLEdDOUBLE
bTONGUE STICKING OUT FARcLICKING LIPScTIP BETWEEN LIPSdTOUCHING INSIDE MOUTHcINSIDE MOUTH RELAXED
cMOVES AGAINST CHEEKcCENTRE STICKING OUTdINSIDE MOUTHbTEETHcMOVEMENTcON TONGUEeMOVEMENTdLIPS
eMOVEMENTcBITE LIPSbMOVEMENT-WALLPLANE JAWbMOVEMENT-FLOORPLANE JAWbNECKbHAIRbEXCITEMENT
bSHOULDER HIP SPINEdPOSITIONSbWALLPLANE SHOULDER HIP MOVEbFLOORPLANE SHOULDER HIP MOVE
bSHOULDER TILTING FROM WAISTbTORSO-WALLPLANE STRAIGHT STRETCHcCURVED BEND
bTORSO-FLOORPLANE TWISTINGbUPPER BODY TILTING FROM HIP JOINTSbLIMB COMBINATIONcLENGTH-1cLENGTH-2
cLENGTH-3cLENGTH-4cLENGTH-5cLENGTH-6cLENGTH-7bFINGERbLOCATION-WALLPLANE SPACE
bLOCATION-FLOORPLANE SPACEbLOCATION HEIGHTcWIDTHcDEPTHcHEAD NECKcTORSOcLIMBS DIGITSbCOMMA
bFULL STOPbSEMICOLONbCOLONbPARENTHESIS:1DA9BaSIGNWRITING FILL MODIFIER-2cMODIFIER-3cMODIFIER-4
cMODIFIER-5cMODIFIER-6:1DAA1aSIGNWRITING ROTATION MODIFIER-2cMODIFIER-3cMODIFIER-4cMODIFIER-5
cMODIFIER-6cMODIFIER-7cMODIFIER-8cMODIFIER-9cMODIFIER-10cMODIFIER-11cMODIFIER-12cMODIFIER-13
cMODIFIER-14cMODIFIER-15cMODIFIER-16:1DF00aLATIN SMALL LETTER FENG DIGRAPH WITH TRILL
dREVERSED SCRIPT GbLETTER SMALL CAPITAL TURNED GbSMALL LETTER REVERSED K
bLETTER SMALL CAPITAL L WITH BELTbSMALL LETTER LEZH WITH RETROFLEX HOOKdTURNED Y WITH BELT
dREVERSED ENGdTURNED R WITH LONG LEG AND RETROFLEX HOOKdT WITH HOOK AND RETROFLEX HOOK
bLETTER RETROFLEX CLICK WITH RETROFLEX HOOKbSMALL LETTER ESH WITH DOUBLE BARhAND CURL
dTURNED T WITH CURLbLETTER INVERTED GLOTTAL STOP WITH CURLcSTRETCHED C WITH CURL
cSMALL CAPITAL TURNED KbSMALL LETTER L WITH FISHHOOKdDEZH DIGRAPH WITH PALATAL HOOK
dL WITH BELT AND PALATAL HOOKdENG WITH PALATAL HOOKdTURNED R WITH PALATAL HOOK
dR WITH FISHHOOK AND PALATAL HOOKdTESH DIGRAPH WITH PALATAL HOOKdEZH WITH PALATAL HOOK
dDEZH DIGRAPH WITH RETROFLEX HOOKdI WITH STROKE AND RETROFLEX HOOKdO WITH RETROFLEX HOOK
dTESH DIGRAPH WITH RETROFLEX HOOKdC WITH RETROFLEX HOOKdS WITH CURL:1E000
aCOMBINING GLAGOLITIC LETTER AZUdBUKYdVEDEdGLAGOLIdDOBROdYESTUdZHIVETE:1E008
aCOMBINING GLAGOLITIC LETTER ZEMLJAdIZHEdINITIAL IZHEdIdDJERVIdKAKOdLJUDIJEdMYSLITEdNASHIdONU
dPOKOJIdRITSIdSLOVOdTVRIDOdUKUdFRITUdHERU:1E01BaCOMBINING GLAGOLITIC LETTER SHTAdTSIdCHRIVIdSHA
dYERUdYERIdYATI:1E023aCOMBINING GLAGOLITIC LETTER YUdSMALL YUS:1E026
aCOMBINING GLAGOLITIC LETTER YOdIOTATED SMALL YUSdBIG YUSdIOTATED BIG YUSdFITA:1E100
aNYIAKENG PUACHUE HMONG LETTER MAeTSAeNTAeTAeHAeNAeXAeNKAeCAeLAeSAeZAeNCAeNTSAeKAeDAeNYAeNRAeVA
eNTXAeTXAeFAeRAeQAeYAeNQAePAeXYAeNPAeDLAeNPLAeHAHeMLAePLAeGAeRRAeAeAAeIeUeOeOOeEeEEeW:1E130
aNYIAKENG PUACHUE HMONG TONE-BdTONE-MdTONE-JdTONE-VdTONE-SdTONE-GdTONE-DdSIGN FOR PERSONfTHING
fLOCATIONfANIMALfINVERTEBRATEeXW XWdSYLLABLE LENGTHENER:1E140aNYIAKENG PUACHUE HMONG DIGIT ZERO
eONEeTWOeTHREEeFOUReFIVEeSIXeSEVENeEIGHTeNINE:1E14EaNYIAKENG PUACHUE HMONG LOGOGRAM NYAJ
dCIRCLED CA:1E290aTOTO LETTER PAcBAcTAcDAcKAcGAcMAcNAcNGAcSAcCHAcYAcWAcJAcHAcRAcLAcIcBREATHY IcIU
cBREATHY IUcUcEcBREATHY EcEOcBREATHY EOcOcAEcBREATHY AEcAbSIGN RISING TONE:1E2C0aWANCHO LETTER AA
cAcBAcCAcDAcGAcYAcPHAcLAcNAcPAcTAcTHAcFAcSAcSHAcJAcZAcWAcVAcKAcOcAUcRAcMAcKHAcHAcEcIcNGAcUcLLHA
cTSAcTRAcONGcAANGcANGcINGcONcENcAANcNYAcUENcYIHbTONE TUPcTUPNIcKOIcKOINIbDIGIT ZEROcONEcTWOcTHREE
cFOURcFIVEcSIXcSEVENcEIGHTcNINE:1E2FFaWANCHO NGUN SIGN:1E7E0aETHIOPIC SYLLABLE HHYAcHHYUcHHYI
cHHYAAcHHYEEcHHYEcHHYO:1E7E8aETHIOPIC SYLLABLE GURAGE HHWAcHHWIcHHWEEcHHWE:1E7ED
aETHIOPIC SYLLABLE GURAGE MWIdMWEE:1E7F0aETHIOPIC SYLLABLE GURAGE QWIdQWEEdQWEdBWIdBWEEdKWIdKWEE
dKWEdGWIdGWEEdGWEdFWIdFWEEdPWIdPWEE:1E800aMENDE KIKAKUI SYLLABLE M001 KIdM002 KAdM003 KUdM065 KEE
dM095 KEdM076 KOOdM048 KOdM179 KUAdM004 WIdM005 WAdM006 WUdM126 WEEdM118 WEdM114 WOOdM045 WO
dM194 WUIdM143 WEIdM061 WVIdM049 WVAdM139 WVEdM007 MINdM008 MANdM009 MUNdM059 MENdM094 MON
dM154 MUANdM189 MUENdM010 BIdM011 BAdM012 BUdM150 BEEdM097 BEdM103 BOOdM138 BOdM013 IdM014 A
dM015 UdM163 EEdM100 EdM165 OOdM147 OdM137 EIdM131 INdM135 INdM195 ANdM178 ENdM019 SIdM020 SA
dM021 SUdM162 SEEdM116 SEdM136 SOOdM079 SOdM196 SIAdM025 LIdM026 LAdM027 LUdM084 LEEdM073 LE
dM054 LOOdM153 LOdM110 LONG LEdM016 DIdM017 DAdM018 DUdM089 DEEdM180 DOOdM181 DOdM022 TIdM023 TA
dM024 TUdM091 TEEdM055 TEdM104 TOOdM069 TOdM028 JIdM029 JAdM030 JUdM157 JEEdM113 JEdM160 JOO
dM063 JOdM175 LONG JOdM031 YIdM032 YAdM033 YUdM109 YEEdM080 YEdM141 YOOdM121 YOdM034 FIdM035 FA
dM036 FUdM078 FEEdM075 FEdM133 FOOdM088 FOdM197 FUAdM101 FANdM037 NINdM038 NANdM039 NUNdM117 NEN
dM169 NONdM176 HIdM041 HAdM186 HUdM040 HEEdM096 HEdM042 HOOdM140 HOdM083 HEEIdM128 HOOUdM053 HIN
dM130 HANdM087 HUNdM052 HENdM193 HONdM046 HUANdM090 NGGIdM043 NGGAdM082 NGGUdM115 NGGEEdM146 NGGE
dM156 NGGOOdM120 NGGOdM159 NGGAAdM127 NGGUAdM086 LONG NGGEdM106 LONG NGGOOdM183 LONG NGGOdM155 GI
dM111 GAdM168 GUdM190 GEEdM166 GUEIdM167 GUANdM184 NGENdM057 NGONdM177 NGUANdM068 PIdM099 PA
dM050 PUdM081 PEEdM051 PEdM102 POOdM066 POdM145 MBIdM062 MBAdM122 MBUdM047 MBEEdM188 MBEEdM072 MBE
dM172 MBOOdM174 MBOdM187 MBUUdM161 LONG MBEdM105 LONG MBOOdM142 LONG MBOdM132 KPIdM092 KPA
dM074 KPUdM044 KPEEdM108 KPEdM112 KPOOdM158 KPOdM124 GBIdM056 GBAdM148 GBUdM093 GBEEdM107 GBE
dM071 GBOOdM070 GBOdM171 RAdM123 NDIdM129 NDAdM125 NDUdM191 NDEEdM119 NDEdM067 NDOOdM064 NDO
dM152 NJAdM192 NJUdM149 NJEEdM134 NJOOdM182 VIdM185 VAdM151 VUdM173 VEEdM085 VEdM144 VOOdM077 VO
dM164 NYINdM058 NYANdM170 NYUNdM098 NYENdM060 NYON:1E8C7aMENDE KIKAKUI DIGIT ONEdTWOdTHREEdFOUR
dFIVEdSIXdSEVENdEIGHTdNINEcCOMBINING NUMBER TEENSeTENSeHUNDREDSeTHOUSANDSeTEN THOUSANDS
eHUNDRED THOUSANDSeMILLIONS:1E900aADLAM CAPITAL LETTER ALIFdDAALIdLAAMdMIIMdBAdSINNYIIYHEdPEdBHE
dRAdEdFAdIdOdDHAdYHEdWAWdNUNdKAFdYAdUdJIIMdCHIdHAdQAAFdGAdNYAdTUdNHAdVAdKHAdGBEdZALdKPOdSHA
bSMALL LETTER ALIFdDAALIdLAAMdMIIMdBAdSINNYIIYHEdPEdBHEdRAdEdFAdIdOdDHAdYHEdWAWdNUNdKAFdYAdUdJIIM
dCHIdHAdQAAFdGAdNYAdTUdNHAdVAdKHAdGBEdZALdKPOdSHAbALIF LENGTHENERbVOWEL LENGTHENERbGEMINATION MARK
bHAMZAbCONSONANT MODIFIERbGEMINATE CONSONANT MODIFIERbNUKTAbNASALIZATION MARK:1E950
aADLAM DIGIT ZEROcONEcTWOcTHREEcFOURcFIVEcSIXcSEVENcEIGHTcNINE:1E95E
aADLAM INITIAL EXCLAMATION MARKcQUESTION MARK:1EC71aINDIC SIYAQ NUMBER ONEdTWOdTHREEdFOURdFIVEdSIX
dSEVENdEIGHTdNINEdTENdTWENTYdTHIRTYdFORTYdFIFTYdSIXTYdSEVENTYdEIGHTYdNINETYdONE HUNDRED
dTWO HUNDREDdTHREE HUNDREDdFOUR HUNDREDdFIVE HUNDREDdSIX HUNDREDdSEVEN HUNDREDdEIGHT HUNDRED
dNINE HUNDREDdONE THOUSANDdTWO THOUSANDdTHREE THOUSANDdFOUR THOUSANDdFIVE THOUSANDdSIX THOUSAND
dSEVEN THOUSANDdEIGHT THOUSANDdNINE THOUSANDdTEN THOUSANDdTWENTY THOUSANDdTHIRTY THOUSAND
dFORTY THOUSANDdFIFTY THOUSANDdSIXTY THOUSANDdSEVENTY THOUSANDdEIGHTY THOUSANDdNINETY THOUSAND
dLAKHdLAKHANcLAKH MARKcNUMBER KARORdKARORANdPREFIXED ONEeTWOeTHREEeFOUReFIVEeSIXeSEVENeEIGHTeNINE
cPLACEHOLDERcFRACTION ONE QUARTEReHALFdTHREE QUARTERScRUPEE MARKcNUMBER ALTERNATE ONEeTWO
eTEN THOUSANDcALTERNATE LAKH MARK:1ED01aOTTOMAN SIYAQ NUMBER ONEdTWOdTHREEdFOURdFIVEdSIXdSEVEN
dEIGHTdNINEdTENdTWENTYdTHIRTYdFORTYdFIFTYdSIXTYdSEVENTYdEIGHTYdNINETYdONE HUNDREDdTWO HUNDRED
dTHREE HUNDREDdFOUR HUNDREDdFIVE HUNDREDdSIX HUNDREDdSEVEN HUNDREDdEIGHT HUNDREDdNINE HUNDRED
dONE THOUSANDdTWO THOUSANDdTHREE THOUSANDdFOUR THOUSANDdFIVE THOUSANDdSIX THOUSANDdSEVEN THOUSAND
dEIGHT THOUSANDdNINE THOUSANDdTEN THOUSANDdTWENTY THOUSANDdTHIRTY THOUSANDdFORTY THOUSAND
dFIFTY THOUSANDdSIXTY THOUSANDdSEVENTY THOUSANDdEIGHTY THOUSANDdNINETY THOUSANDcMARRATAN
cALTERNATE NUMBER TWOeTHREEeFOUReFIVEeSIXeSEVENeEIGHTeNINEeTENeFOUR HUNDREDeSIX HUNDRED
eTWO THOUSANDeTEN THOUSANDcFRACTION ONE HALFeSIXTH"

end TicketMigration.CharacterName
