/-!
# Names of characters: scripts

Smaller scripts, most of them of the past, and cuneiform.

## Main definitions

* `scripts` is the table.
-/

namespace TicketMigration.CharacterName

/-- The table.  Behind a colon stands the code of a character.  Each name begins with a small
letter, which says how many words it has in common with the name before, and is the name of the
next code. -/
def scripts : String :=
  ":10400aDESERET CAPITAL LETTER LONG IeEeAeAHeOeOOdSHORT IeEeAeAHeOeOOdAYdOWdWUdYEEdHdPEEdBEEdTEE
dDEEdCHEEdJEEdKAYdGAYdEFdVEEdETHdTHEEdESdZEEdESHdZHEEdERdELdEMdENdENGdOIdEWbSMALL LETTER LONG IeE
eAeAHeOeOOdSHORT IeEeAeAHeOeOOdAYdOWdWUdYEEdHdPEEdBEEdTEEdDEEdCHEEdJEEdKAYdGAYdEFdVEEdETHdTHEEdES
dZEEdESHdZHEEdERdELdEMdENdENGdOIdEWaSHAVIAN LETTER PEEPcTOTcKICKcFEEcTHIGHcSOcSUREcCHURCHcYEAcHUNG
cBIBcDEADcGAGcVOWcTHEYcZOOcMEASUREcJUDGEcWOEcHA-HAcLOLLcMIMEcIFcEGGcASHcADOcONcWOOLcOUTcAHcROAR
cNUNcEATcAGEcICEcUPcOAKcOOZEcOILcAWEcAREcORcAIRcERRcARRAYcEARcIANcYEWaOSMANYA LETTER ALEFcBAcTAcJA
cXAcKHAcDEELcRAcSAcSHIINcDHAcCAYNcGAcFAcQAAFcKAAFcLAANcMIINcNUUNcWAWcHAcYAcAcEcIcOcUcAAcEEcOO
:104A0aOSMANYA DIGIT ZEROcONEcTWOcTHREEcFOURcFIVEcSIXcSEVENcEIGHTcNINE:104B0
aOSAGE CAPITAL LETTER AdAIdAINdAHdBRAdCHAdEHCHAdEdEINdHAdHYAdIdKAdEHKAdKYAdLAdMAdNAdOdOINdPAdEHPA
dSAdSHAdTAdEHTAdTSAdEHTSAdTSHAdDHAdUdWAdKHAdGHAdZAdZHA:104D8aOSAGE SMALL LETTER AdAIdAINdAHdBRA
dCHAdEHCHAdEdEINdHAdHYAdIdKAdEHKAdKYAdLAdMAdNAdOdOINdPAdEHPAdSAdSHAdTAdEHTAdTSAdEHTSAdTSHAdDHAdU
dWAdKHAdGHAdZAdZHA:10500aELBASAN LETTER AcBEcCEcCHEcDEcNDEcDHEcEIcEcFEcGEcGJEcHEcIcJEcKEcLEcLLEcME
cNEcNAcNJEcOcPEcQEcREcRREcSEcSHEcTEcTHEcUcVEcXEcYcZEcZHEcGHEcGHAMMAcKHE:10530
aCAUCASIAN ALBANIAN LETTER ALTdBETdGIMdDATdEBdZARLdEYNdZHILdTASdCHAdYOWDdZHAdIRBdSHAdLANdINYAdXEYN
dDYANdCARdJHOXdKARdLYITdHEYTdQAYdAORdCHOYdCHIdCYAYdMAQdQARdNOWCdDZYAYdSHAKdJAYNdONdTYAYdFAMdDZAY
dCHATdPENdGHEYSdRATdSEYKdVEYZdTIWRdSHOYdIWNdCYAWdCAYNdYAYDdPIWRdKIW:1056F
aCAUCASIAN ALBANIAN CITATION MARKaVITHKUQI CAPITAL LETTER AdBBEdBEdCEdCHEdDEdDHEdEIdEdFEdGA:1057C
aVITHKUQI CAPITAL LETTER HAdHHAdIdIJEdJEdKAdLAdLLAdMEdNEdNJEdOdPEdQAdRE:1058C
aVITHKUQI CAPITAL LETTER SEdSHEdTEdTHEdUdVEdXE:10594aVITHKUQI CAPITAL LETTER YdZE:10597
aVITHKUQI SMALL LETTER AdBBEdBEdCEdCHEdDEdDHEdEIdEdFEdGA:105A3aVITHKUQI SMALL LETTER HAdHHAdIdIJE
dJEdKAdLAdLLAdMEdNEdNJEdOdPEdQAdRE:105B3aVITHKUQI SMALL LETTER SEdSHEdTEdTHEdUdVEdXE:105BB
aVITHKUQI SMALL LETTER YdZE:10600aLINEAR A SIGN AB001dAB002dAB003dAB004dAB005dAB006dAB007dAB008
dAB009dAB010dAB011dAB013dAB016dAB017dAB020dAB021dAB021FdAB021MdAB022dAB022FdAB022MdAB023dAB023M
dAB024dAB026dAB027dAB028dA028BdAB029dAB030dAB031dAB034dAB037dAB038dAB039dAB040dAB041dAB044dAB045
dAB046dAB047dAB048dAB049dAB050dAB051dAB053dAB054dAB055dAB056dAB057dAB058dAB059dAB060dAB061dAB065
dAB066dAB067dAB069dAB070dAB073dAB074dAB076dAB077dAB078dAB079dAB080dAB081dAB082dAB085dAB086dAB087
dA100-102dAB118dAB120dA120BdAB122dAB123dAB131AdAB131BdA131CdAB164dAB171dAB180dAB188dAB191dA301
dA302dA303dA304dA305dA306dA307dA308dA309AdA309BdA309CdA310dA311dA312dA313AdA313BdA313CdA314dA315
dA316dA317dA318dA319dA320dA321dA322dA323dA324dA325dA326dA327dA328dA329dA330dA331dA332dA333dA334
dA335dA336dA337dA338dA339dA340dA341dA342dA343dA344dA345dA346dA347dA348dA349dA350dA351dA352dA353
dA354dA355dA356dA357dA358dA359dA360dA361dA362dA363dA364dA365dA366dA367dA368dA369dA370dA371
dA400-VASdA401-VASdA402-VASdA403-VASdA404-VASdA405-VASdA406-VASdA407-VASdA408-VASdA409-VAS
dA410-VASdA411-VASdA412-VASdA413-VASdA414-VASdA415-VASdA416-VASdA417-VASdA418-VASdA501dA502dA503
dA504dA505dA506dA508dA509dA510dA511dA512dA513dA515dA516dA520dA521dA523dA524dA525dA526dA527dA528
dA529dA530dA531dA532dA534dA535dA536dA537dA538dA539dA540dA541dA542dA545dA547dA548dA549dA550dA551
dA552dA553dA554dA555dA556dA557dA559dA563dA564dA565dA566dA568dA569dA570dA571dA572dA573dA574dA575
dA576dA577dA578dA579dA580dA581dA582dA583dA584dA585dA586dA587dA588dA589dA591dA592dA594dA595dA596
dA598dA600dA601dA602dA603dA604dA606dA608dA609dA610dA611dA612dA613dA614dA615dA616dA617dA618dA619
dA620dA621dA622dA623dA624dA626dA627dA628dA629dA634dA637dA638dA640dA642dA643dA644dA645dA646dA648
dA649dA651dA652dA653dA654dA655dA656dA657dA658dA659dA660dA661dA662dA663dA664:10740
aLINEAR A SIGN A701 AdA702 BdA703 DdA704 EdA705 FdA706 HdA707 JdA708 KdA709 LdA709-2 L2dA709-3 L3
dA709-4 L4dA709-6 L6dA710 WdA711 XdA712 YdA713 OMEGAdA714 ABBdA715 BBdA717 DDdA726 EYYYdA732 JE
:10760aLINEAR A SIGN A800dA801dA802dA803dA804dA805dA806dA807:10780
aMODIFIER LETTER SMALL CAPITAL AAcSUPERSCRIPT TRIANGULAR COLONdHALF TRIANGULAR COLONcSMALL AE
dCAPITAL BdB WITH HOOK:10787aMODIFIER LETTER SMALL DZ DIGRAPHfWITH RETROFLEX HOOKgCURL
dDEZH DIGRAPHdD WITH TAILfHOOKgAND TAILdREVERSED EdCLOSED REVERSED OPEN EdFENG DIGRAPHdRAMS HORN
dCAPITAL GdG WITH HOOKdCAPITAL G WITH HOOKdH WITH STROKEdCAPITAL HdHENG WITH HOOK
dDOTLESS J WITH STROKE AND HOOKdLS DIGRAPHdLZ DIGRAPHdL WITH BELTdCAPITAL L WITH BELT
dL WITH RETROFLEX HOOK AND BELTdLEZHeWITH RETROFLEX HOOKdTURNED YfWITH BELTdO WITH STROKE
dCAPITAL OEdCLOSED OMEGAdQdTURNED R WITH LONG LEGiAND RETROFLEX HOOKdR WITH TAILfFISHHOOK
dCAPITAL RdTC DIGRAPH WITH CURLdTS DIGRAPHfWITH RETROFLEX HOOKdTESH DIGRAPHdT WITH RETROFLEX HOOK
dV WITH RIGHT HOOK:107B2aMODIFIER LETTER SMALL CAPITAL YcGLOTTAL STOP WITH STROKE
cREVERSED GLOTTAL STOP WITH STROKEcBILABIAL CLICKcDENTAL CLICKcLATERAL CLICKcALVEOLAR CLICK
cRETROFLEX CLICK WITH RETROFLEX HOOKcSMALL S WITH CURL:10800aCYPRIOT SYLLABLE AcEcIcOcUcJA:10808
aCYPRIOT SYLLABLE JO:1080AaCYPRIOT SYLLABLE KAcKEcKIcKOcKUcLAcLEcLIcLOcLUcMAcMEcMIcMOcMUcNAcNEcNI
cNOcNUcPAcPEcPIcPOcPUcRAcREcRIcROcRUcSAcSEcSIcSOcSUcTAcTEcTIcTOcTUcWAcWEcWIcWO:10837
aCYPRIOT SYLLABLE XAcXE:1083CaCYPRIOT SYLLABLE ZA:1083FaCYPRIOT SYLLABLE ZO
aIMPERIAL ARAMAIC LETTER ALEPHdBETHdGIMELdDALETHdHEdWAWdZAYINdHETHdTETHdYODHdKAPHdLAMEDHdMEMdNUN
dSAMEKHdAYINdPEdSADHEdQOPHdRESHdSHINdTAW:10857aIMPERIAL ARAMAIC SECTION SIGNcNUMBER ONEdTWOdTHREE
dTENdTWENTYdONE HUNDREDeTHOUSANDdTEN THOUSANDaPALMYRENE LETTER ALEPHcBETHcGIMELcDALETHcHEcWAW
cZAYINcHETHcTETHcYODHcKAPHcLAMEDHcMEMcFINAL NUNcNUNcSAMEKHcAYINcPEcSADHEcQOPHcRESHcSHINcTAW
bLEFT-POINTING FLEURONbRIGHT-POINTING FLEURONbNUMBER ONEcTWOcTHREEcFOURcFIVEcTENcTWENTY
aNABATAEAN LETTER FINAL ALEPHcALEPHcFINAL BETHcBETHcGIMELcDALETHcFINAL HEcHEcWAWcZAYINcHETHcTETH
cFINAL YODHcYODHcFINAL KAPHcKAPHcFINAL LAMEDHcLAMEDHcFINAL MEMcMEMcFINAL NUNcNUNcSAMEKHcAYINcPE
cSADHEcQOPHcRESHcFINAL SHINcSHINcTAW:108A7aNABATAEAN NUMBER ONEcTWOcTHREEcFOUR
bCRUCIFORM NUMBER FOURbNUMBER FIVEcTENcTWENTYcONE HUNDRED:108E0aHATRAN LETTER ALEPHcBETHcGIMEL
cDALETH-RESHcHEcWAWcZAYNcHETHcTETHcYODHcKAPHcLAMEDHcMEMcNUNcSAMEKHcAYNcPEcSADHEcQOPH:108F4
aHATRAN LETTER SHINcTAW:108FBaHATRAN NUMBER ONEcFIVEcTENcTWENTYcONE HUNDREDaPHOENICIAN LETTER ALF
cBETcGAMLcDELTcHEcWAUcZAIcHETcTETcYODcKAFcLAMDcMEMcNUNcSEMKcAINcPEcSADEcQOFcROSHcSHINcTAU
bNUMBER ONEcTENcTWENTYcONE HUNDREDcTWOcTHREE:1091FaPHOENICIAN WORD SEPARATORaLYDIAN LETTER AcBcGcD
cEcVcIcYcKcLcMcNcOcRcSScTcUcFcQcScTTcANcENcLYcNNcC:1093FaLYDIAN TRIANGULAR MARK:10980
aMEROITIC HIEROGLYPHIC LETTER AdEdIdOdYAdWAdBAdBA-2dPAdMAdNAdNA-2dNEdNE-2dRAdRA-2dLAdKHAdHHAdSA
dSA-2dSEdKAdQAdTAdTA-2dTEdTE-2dTOdDAcSYMBOL VIDJdVIDJ-2bCURSIVE LETTER AdEdIdOdYAdWAdBAdPAdMAdNA
dNEdRAdLAdKHAdHHAdSAdARCHAIC SAdSEdKAdQAdTAdTEdTOdDA:109BC
aMEROITIC CURSIVE FRACTION ELEVEN TWELFTHSdONE HALFcLOGOGRAM RMTdIMNcNUMBER ONEdTWOdTHREEdFOUR
dFIVEdSIXdSEVENdEIGHTdNINEdTENdTWENTYdTHIRTYdFORTYdFIFTYdSIXTYdSEVENTY:109D2
aMEROITIC CURSIVE NUMBER ONE HUNDREDdTWO HUNDREDdTHREE HUNDREDdFOUR HUNDREDdFIVE HUNDRED
dSIX HUNDREDdSEVEN HUNDREDdEIGHT HUNDREDdNINE HUNDREDdONE THOUSANDdTWO THOUSANDdTHREE THOUSAND
dFOUR THOUSANDdFIVE THOUSANDdSIX THOUSANDdSEVEN THOUSANDdEIGHT THOUSANDdNINE THOUSANDdTEN THOUSAND
dTWENTY THOUSANDdTHIRTY THOUSANDdFORTY THOUSANDdFIFTY THOUSANDdSIXTY THOUSANDdSEVENTY THOUSAND
dEIGHTY THOUSANDdNINETY THOUSANDdONE HUNDRED THOUSANDdTWO HUNDRED THOUSANDdTHREE HUNDRED THOUSAND
dFOUR HUNDRED THOUSANDdFIVE HUNDRED THOUSANDdSIX HUNDRED THOUSANDdSEVEN HUNDRED THOUSAND
dEIGHT HUNDRED THOUSANDdNINE HUNDRED THOUSANDcFRACTION ONE TWELFTHdTWO TWELFTHSdTHREE TWELFTHS
dFOUR TWELFTHSdFIVE TWELFTHSdSIX TWELFTHSdSEVEN TWELFTHSdEIGHT TWELFTHSdNINE TWELFTHSdTEN TWELFTHS
aKHAROSHTHI LETTER AbVOWEL SIGN IdUdVOCALIC R:10A05aKHAROSHTHI VOWEL SIGN EdO:10A0C
aKHAROSHTHI VOWEL LENGTH MARKbSIGN DOUBLE RING BELOWcANUSVARAcVISARGAbLETTER KAcKHAcGAcGHA:10A15
aKHAROSHTHI LETTER CAcCHAcJA:10A19aKHAROSHTHI LETTER NYAcTTAcTTHAcDDAcDDHAcNNAcTAcTHAcDAcDHAcNAcPA
cPHAcBAcBHAcMAcYAcRAcLAcVAcSHAcSSAcSAcZAcHAcKKAcTTTHAcTTTAcVHA:10A38aKHAROSHTHI SIGN BAR ABOVE
cCAUDAcDOT BELOW:10A3FaKHAROSHTHI VIRAMAbDIGIT ONEcTWOcTHREEcFOURbNUMBER TENcTWENTYcONE HUNDRED
dTHOUSANDbFRACTION ONE HALF:10A50aKHAROSHTHI PUNCTUATION DOTcSMALL CIRCLEcCIRCLEcCRESCENT BAR
cMANGALAMcLOTUScDANDAcDOUBLE DANDAcLINES:10A60aOLD SOUTH ARABIAN LETTER HEeLAMEDHeHETHeMEMeQOPH
eWAWeSHINeRESHeBETHeTAWeSATeKAPHeNUNeKHETHeSADHEeSAMEKHeFEeALEFeAYNeDHADHEeGIMELeDALETHeGHAYNeTETH
eZAYNeDHALETHeYODHeTHAWeTHETHdNUMBER ONEeFIFTYdNUMERIC INDICATORbNORTH ARABIAN LETTER HEHeLAMeHAH
eMEEMeQAFeWAWeES-2eREHeBEHeTEHeES-1eKAFeNOONeKHAHeSADeES-3eFEHeALEFeAINeDADeGEEMeDALeGHAINeTAH
eZAINeTHALeYEHeTHEHeZAHdNUMBER ONEeTENeTWENTY:10AC0aMANICHAEAN LETTER ALEPHcBETHcBHETHcGIMEL
cGHIMELcDALETHcHEcWAWbSIGN UDbLETTER ZAYINcZHAYINcJAYINcJHAYINcHETHcTETHcYODHcKAPHcXAPHcKHAPH
cLAMEDHcDHAMEDHcTHAMEDHcMEMcNUNcSAMEKHcAYINcAAYINcPEcFEcSADHEcQOPHcXOPHcQHOPHcRESHcSHINcSSHINcTAW
bABBREVIATION MARK ABOVEdBELOW:10AEBaMANICHAEAN NUMBER ONEcFIVEcTENcTWENTYcONE HUNDRED
bPUNCTUATION STARcFLEURONcDOUBLE DOT WITHIN DOTcDOT WITHIN DOTcDOTcTWO DOTScLINE FILLER:10B00
aAVESTAN LETTER AcAAcAOcAAOcANcAANcAEcAEEcEcEEcOcOOcIcIIcUcUUcKEcXEcXYEcXVEcGEcGGEcGHEcCEcJEcTE
cTHEcDEcDHEcTTEcPEcFEcBEcBHEcNGEcNGYEcNGVEcNEcNYEcNNEcMEcHMEcYYEcYEcVEcREcLEcSEcZEcSHEcZHEcSHYE
cSSHEcHE:10B39aAVESTAN ABBREVIATION MARKaTINY TWO DOTS OVER ONE DOT PUNCTUATION
aSMALL TWO DOTS OVER ONE DOT PUNCTUATIONaLARGE TWO DOTS OVER ONE DOT PUNCTUATION
bONE DOT OVER TWO DOTS PUNCTUATIONbTWO RINGS OVER ONE RING PUNCTUATION
bONE RING OVER TWO RINGS PUNCTUATIONaINSCRIPTIONAL PARTHIAN LETTER ALEPHdBETHdGIMELdDALETHdHEdWAW
dZAYINdHETHdTETHdYODHdKAPHdLAMEDHdMEMdNUNdSAMEKHdAYINdPEdSADHEdQOPHdRESHdSHINdTAW:10B58
aINSCRIPTIONAL PARTHIAN NUMBER ONEdTWOdTHREEdFOURdTENdTWENTYdONE HUNDREDeTHOUSAND
bPAHLAVI LETTER ALEPHdBETHdGIMELdDALETHdHEdWAW-AYIN-RESHdZAYINdHETHdTETHdYODHdKAPHdLAMEDHdMEM-QOPH
dNUNdSAMEKHdPEdSADHEdSHINdTAW:10B78aINSCRIPTIONAL PAHLAVI NUMBER ONEdTWOdTHREEdFOURdTENdTWENTY
dONE HUNDREDeTHOUSANDaPSALTER PAHLAVI LETTER ALEPHdBETHdGIMELdDALETHdHEdWAW-AYIN-RESHdZAYINdHETH
dYODHdKAPHdLAMEDHdMEM-QOPHdNUNdSAMEKHdPEdSADHEdSHINdTAW:10B99aPSALTER PAHLAVI SECTION MARK
cTURNED SECTION MARKcFOUR DOTS WITH CROSSfDOT:10BA9aPSALTER PAHLAVI NUMBER ONEdTWOdTHREEdFOURdTEN
dTWENTYdONE HUNDRED:10C00aOLD TURKIC LETTER ORKHON AdYENISEI AeAEdORKHON IdYENISEI IeEdORKHON OeOE
dYENISEI OEdORKHON ABdYENISEI ABdORKHON AEBdYENISEI AEBdORKHON AGdYENISEI AGdORKHON AEG
dYENISEI AEGdORKHON ADdYENISEI ADdORKHON AEDeEZdYENISEI EZdORKHON AYdYENISEI AYdORKHON AEY
dYENISEI AEYdORKHON AEKdYENISEI AEKdORKHON OEKdYENISEI OEKdORKHON ALdYENISEI ALdORKHON AELeELTeEM
eANeAENdYENISEI AENdORKHON ENTdYENISEI ENTdORKHON ENCdYENISEI ENCdORKHON ENYdYENISEI ENYeANG
dORKHON ENGdYENISEI AENGdORKHON EPeOPeICeECdYENISEI ECdORKHON AQdYENISEI AQdORKHON IQdYENISEI IQ
dORKHON OQdYENISEI OQdORKHON ARdYENISEI ARdORKHON AEReASeAESeASHdYENISEI ASHdORKHON ESH
dYENISEI ESHdORKHON ATdYENISEI ATdORKHON AETdYENISEI AETdORKHON OTeBASH:10C80
aOLD HUNGARIAN CAPITAL LETTER AeAAeEBeAMBeECeENCeECSeEDeANDeEeCLOSE EeEEeEFeEGeEGYeEHeIeIIeEJeEK
eAKeUNKeELeELYeEMeENeENYeOeOOeNIKOLSBURG OEeRUDIMENTA OEeOEEeEPeEMPeEReSHORT EReESeESZeETeENTeETY
eECHeUeUUeNIKOLSBURG UEeRUDIMENTA UEeEVeEZeEZSeENT-SHAPED SIGNeUS:10CC0
aOLD HUNGARIAN SMALL LETTER AeAAeEBeAMBeECeENCeECSeEDeANDeEeCLOSE EeEEeEFeEGeEGYeEHeIeIIeEJeEKeAK
eUNKeELeELYeEMeENeENYeOeOOeNIKOLSBURG OEeRUDIMENTA OEeOEEeEPeEMPeEReSHORT EReESeESZeETeENTeETYeECH
eUeUUeNIKOLSBURG UEeRUDIMENTA UEeEVeEZeEZSeENT-SHAPED SIGNeUS:10CFAaOLD HUNGARIAN NUMBER ONEdFIVE
dTENdFIFTYdONE HUNDREDeTHOUSANDaHANIFI ROHINGYA LETTER AdBAdPAdTAdTTAdJAdCAdHAdKHAdFAdDAdDDAdRA
dRRAdZAdSAdSHAdKAdGAdLAdMAdNAdWAdKINNA WAdYAdKINNA YAdNGAdNYAdVAcVOWEL AdIdUdEdOcMARK SAKIN
dNA KHONNAcSIGN HARBAHAYdTAHALAdTANAdTASSI:10D30aHANIFI ROHINGYA DIGIT ZEROdONEdTWOdTHREEdFOUR
dFIVEdSIXdSEVENdEIGHTdNINE:10E60aRUMI DIGIT ONEcTWOcTHREEcFOURcFIVEcSIXcSEVENcEIGHTcNINE
bNUMBER TENcTWENTYcTHIRTYcFORTYcFIFTYcSIXTYcSEVENTYcEIGHTYcNINETYcONE HUNDREDcTWO HUNDRED
cTHREE HUNDREDcFOUR HUNDREDcFIVE HUNDREDcSIX HUNDREDcSEVEN HUNDREDcEIGHT HUNDREDcNINE HUNDRED
bFRACTION ONE HALFdQUARTERdTHIRDcTWO THIRDS:10E80aYEZIDI LETTER ELIFcBEcPEcPHEcTHEcSEcCIMcCHIM
cCHHIMcHHAcXAcDALcZALcRAcRHAcZAcJAcSINcSHINcSADcDADcTAcZEcEYNcXHEYNcFAcVAdALTERNATE FORMcQAFcKAF
cKHAFcGAFcLAMcMIMcNUNcUMcWAWcOWcEWcHAYcYOTcET:10EABaYEZIDI COMBINING HAMZA MARKcMADDA MARK
bHYPHENATION MARK:10EB0aYEZIDI LETTER LAM WITH DOT ABOVEcYOT WITH CIRCUMFLEX ABOVE:10F00
aOLD SOGDIAN LETTER ALEPHdFINAL ALEPHdBETHdFINAL BETHdGIMELdHEdFINAL HEdWAWdZAYINdHETHdYODHdKAPH
dLAMEDHdMEMdNUNdFINAL NUNfWITH VERTICAL TAILdSAMEKHdAYINdALTERNATE AYINdPEdSADHEdFINAL SADHE
fWITH VERTICAL TAILdRESH-AYIN-DALETHdSHINdTAWdFINAL TAWfWITH VERTICAL TAILcNUMBER ONEdTWOdTHREE
dFOURdFIVEdTENdTWENTYdTHIRTYdONE HUNDREDcFRACTION ONE HALFcLIGATURE AYIN-DALETH:10F30
aSOGDIAN LETTER ALEPHcBETHcGIMELcHEcWAWcZAYINcHETHcYODHcKAPHcLAMEDHcMEMcNUNcSAMEKHcAYINcPEcSADHE
cRESH-AYINcSHINcTAWcFETHcLESHbINDEPENDENT SHINbCOMBINING DOT BELOWcTWO DOTS BELOWcDOT ABOVE
cTWO DOTS ABOVEcCURVE ABOVEdBELOWcHOOK ABOVEdBELOWcLONG HOOK BELOWcRESH BELOWcSTROKE BELOW
bNUMBER ONEcTENcTWENTYcONE HUNDREDbPUNCTUATION TWO VERTICAL BARSfWITH DOTScCIRCLE WITH DOT
cTWO CIRCLES WITH DOTScHALF CIRCLE WITH DOT:10F70aOLD UYGHUR LETTER ALEPHdBETHdGIMEL-HETHdWAW
dZAYINdFINAL HETHdYODHdKAPHdLAMEDHdMEMdNUNdSAMEKHdPEdSADHEdRESHdSHINdTAWdLESHcCOMBINING DOT ABOVE
eBELOWdTWO DOTS ABOVEfBELOWcPUNCTUATION BARdTWO BARSeDOTSdFOUR DOTS:10FB0aCHORASMIAN LETTER ALEPH
cSMALL ALEPHcBETHcGIMELcDALETHcHEcWAWcCURLED WAWcZAYINcHETHcYODHcKAPHcLAMEDHcMEMcNUNcSAMEKHcAYIN
cPEcRESHcSHINcTAWbNUMBER ONEcTWOcTHREEcFOURcTENcTWENTYcONE HUNDRED:10FE0aELYMAIC LETTER ALEPHcBETH
cGIMELcDALETHcHEcWAWcZAYINcHETHcTETHcYODHcKAPHcLAMEDHcMEMcNUNcSAMEKHcAYINcPEcSADHEcQOPHcRESHcSHIN
cTAWbLIGATURE ZAYIN-YODH:11000aBRAHMI SIGN CANDRABINDUcANUSVARAcVISARGAcJIHVAMULIYAcUPADHMANIYA
bLETTER AcAAcIcIIcUcUUcVOCALIC RdRRdLdLLcEcAIcOcAUcKAcKHAcGAcGHAcNGAcCAcCHAcJAcJHAcNYAcTTAcTTHA
cDDAcDDHAcNNAcTAcTHAcDAcDHAcNAcPAcPHAcBAcBHAcMAcYAcRAcLAcVAcSHAcSSAcSAcHAcLLAcOLD TAMIL LLLAeRRA
eNNNAbVOWEL SIGN AAdBHATTIPROLU AAdIdIIdUdUUdVOCALIC ReRReLeLLdEdAIdOdAUbVIRAMAbDANDAbDOUBLE DANDA
bPUNCTUATION DOTcDOUBLE DOTcLINEcCRESCENT BARcLOTUS:11052aBRAHMI NUMBER ONEcTWOcTHREEcFOURcFIVE
cSIXcSEVENcEIGHTcNINEcTENcTWENTYcTHIRTYcFORTYcFIFTYcSIXTYcSEVENTYcEIGHTYcNINETYcONE HUNDRED
dTHOUSANDbDIGIT ZEROcONEcTWOcTHREEcFOURcFIVEcSIXcSEVENcEIGHTcNINEbSIGN OLD TAMIL VIRAMA
bLETTER OLD TAMIL SHORT EfObVOWEL SIGN OLD TAMIL SHORT EgObLETTER OLD TAMIL LLA:1107F
aBRAHMI NUMBER JOINERaKAITHI SIGN CANDRABINDUcANUSVARAcVISARGAbLETTER AcAAcIcIIcUcUUcEcAIcOcAUcKA
cKHAcGAcGHAcNGAcCAcCHAcJAcJHAcNYAcTTAcTTHAcDDAcDDDHAcDDHAcRHAcNNAcTAcTHAcDAcDHAcNAcPAcPHAcBAcBHA
cMAcYAcRAcLAcVAcSHAcSSAcSAcHAbVOWEL SIGN AAdIdIIdUdUUdEdAIdOdAUbSIGN VIRAMAcNUKTA
bABBREVIATION SIGNbENUMERATION SIGNbNUMBER SIGNbSECTION MARKbDOUBLE SECTION MARKbDANDA
bDOUBLE DANDAbVOWEL SIGN VOCALIC R:110CDaKAITHI NUMBER SIGN ABOVE:110D0aSORA SOMPENG LETTER SAH
dTAHdBAHdCAHdDAHdGAHdMAHdNGAHdLAHdNAHdVAHdPAHdYAHdRAHdHAHdKAHdJAHdNYAHdAHdEEHdIHdUHdOHdEHdMAE
:110F0aSORA SOMPENG DIGIT ZEROdONEdTWOdTHREEdFOURdFIVEdSIXdSEVENdEIGHTdNINE:11100
aCHAKMA SIGN CANDRABINDUcANUSVARAcVISARGAbLETTER AAcIcUcEcKAAcKHAAcGAAcGHAAcNGAAcCAAcCHAAcJAAcJHAA
cNYAAcTTAAcTTHAAcDDAAcDDHAAcNNAAcTAAcTHAAcDAAcDHAAcNAAcPAAcPHAAcBAAcBHAAcMAAcYYAAcYAAcRAAcLAAcWAA
cSAAcHAAbVOWEL SIGN AdIdIIdUdUUdEdAIdOdAUdOIbO MARKbAU MARKbVIRAMAbMAAYYAA:11136aCHAKMA DIGIT ZERO
cONEcTWOcTHREEcFOURcFIVEcSIXcSEVENcEIGHTcNINEbSECTION MARKbDANDAbDOUBLE DANDAbQUESTION MARK
bLETTER LHAAbVOWEL SIGN AAdEIbLETTER VAA:11150aMAHAJANI LETTER AcIcUcEcOcKAcKHAcGAcGHAcCAcCHAcJA
cJHAcNYAcTTAcTTHAcDDAcDDHAcNNAcTAcTHAcDAcDHAcNAcPAcPHAcBAcBHAcMAcRAcLAcVAcSAcHAcRRAbSIGN NUKTA
bABBREVIATION SIGNbSECTION MARKbLIGATURE SHRI:11180aSHARADA SIGN CANDRABINDUcANUSVARAcVISARGA
bLETTER AcAAcIcIIcUcUUcVOCALIC RdRRdLdLLcEcAIcOcAUcKAcKHAcGAcGHAcNGAcCAcCHAcJAcJHAcNYAcTTAcTTHA
cDDAcDDHAcNNAcTAcTHAcDAcDHAcNAcPAcPHAcBAcBHAcMAcYAcRAcLAcLLAcVAcSHAcSSAcSAcHAbVOWEL SIGN AAdIdIIdU
dUUdVOCALIC ReRReLeLLdEdAIdOdAUbSIGN VIRAMAcAVAGRAHAcJIHVAMULIYAcUPADHMANIYAbOMbDANDAbDOUBLE DANDA
bABBREVIATION SIGNbSEPARATORbSANDHI MARKbSIGN NUKTAbVOWEL MODIFIER MARKbEXTRA SHORT VOWEL MARK
bSUTRA MARKbVOWEL SIGN PRISHTHAMATRA EbSIGN INVERTED CANDRABINDUbDIGIT ZEROcONEcTWOcTHREEcFOUR
cFIVEcSIXcSEVENcEIGHTcNINEbEKAMbSIGN SIDDHAMbHEADSTROKEbCONTINUATION SIGNbSECTION MARK-1cMARK-2
:111E1aSINHALA ARCHAIC DIGIT ONEdTWOdTHREEdFOURdFIVEdSIXdSEVENdEIGHTdNINEcNUMBER TENdTWENTYdTHIRTY
dFORTYdFIFTYdSIXTYdSEVENTYdEIGHTYdNINETYdONE HUNDREDeTHOUSAND:11200aKHOJKI LETTER AcAAcIcUcEcAIcO
cAUcKAcKHAcGAcGGAcGHAcNGAcCAcCHAcJAcJJA:11213aKHOJKI LETTER NYAcTTAcTTHAcDDAcDDHAcNNAcTAcTHAcDA
cDDDAcDHAcNAcPAcPHAcBAcBBAcBHAcMAcYAcRAcLAcVAcSAcHAcLLAbVOWEL SIGN AAdIdIIdUdEdAIdOdAU
bSIGN ANUSVARAcVIRAMAcNUKTAcSHADDAbDANDAbDOUBLE DANDAbWORD SEPARATORbSECTION MARK
bDOUBLE SECTION MARKbABBREVIATION SIGNbSIGN SUKUN:11280aMULTANI LETTER AcIcUcEcKAcKHAcGA:11288
aMULTANI LETTER GHA:1128AaMULTANI LETTER CAcCHAcJAcJJA:1128FaMULTANI LETTER NYAcTTAcTTHAcDDAcDDDA
cDDHAcNNAcTAcTHAcDAcDHAcNAcPAcPHAcBA:1129FaMULTANI LETTER BHAcMAcYAcRAcLAcVAcSAcHAcRRAcRHA
bSECTION MARK:112B0aKHUDAWADI LETTER AcAAcIcIIcUcUUcEcAIcOcAUcKAcKHAcGAcGGAcGHAcNGAcCAcCHAcJAcJJA
cJHAcNYAcTTAcTTHAcDDAcDDDAcRRAcDDHAcNNAcTAcTHAcDAcDHAcNAcPAcPHAcBAcBBAcBHAcMAcYAcRAcLAcVAcSHAcSA
cHAbSIGN ANUSVARAbVOWEL SIGN AAdIdIIdUdUUdEdAIdOdAUbSIGN NUKTAcVIRAMA:112F0aKHUDAWADI DIGIT ZERO
cONEcTWOcTHREEcFOURcFIVEcSIXcSEVENcEIGHTcNINE:11300aGRANTHA SIGN COMBINING ANUSVARA ABOVE
cCANDRABINDUcANUSVARAcVISARGA:11305aGRANTHA LETTER AcAAcIcIIcUcUUcVOCALIC RdL:1130F
aGRANTHA LETTER EEcAI:11313aGRANTHA LETTER OOcAUcKAcKHAcGAcGHAcNGAcCAcCHAcJAcJHAcNYAcTTAcTTHAcDDA
cDDHAcNNAcTAcTHAcDAcDHAcNA:1132AaGRANTHA LETTER PAcPHAcBAcBHAcMAcYAcRA:11332aGRANTHA LETTER LAcLLA
:11335aGRANTHA LETTER VAcSHAcSSAcSAcHA:1133BaCOMBINING BINDU BELOWaGRANTHA SIGN NUKTAcAVAGRAHA
bVOWEL SIGN AAdIdIIdUdUUdVOCALIC ReRR:11347aGRANTHA VOWEL SIGN EEdAI:1134BaGRANTHA VOWEL SIGN OO
dAUbSIGN VIRAMA:11350aGRANTHA OM:11357aGRANTHA AU LENGTH MARK:1135DaGRANTHA SIGN PLUTA
bLETTER VEDIC ANUSVARAdDOUBLE ANUSVARAcVOCALIC RRdLLbVOWEL SIGN VOCALIC LeLL:11366
aCOMBINING GRANTHA DIGIT ZEROdONEdTWOdTHREEdFOURdFIVEdSIX:11370aCOMBINING GRANTHA LETTER AdKAdNA
dVIdPA:11400aNEWA LETTER AcAAcIcIIcUcUUcVOCALIC RdRRdLdLLcEcAIcOcAUcKAcKHAcGAcGHAcNGAcNGHAcCAcCHA
cJAcJHAcNYAcNYHAcTTAcTTHAcDDAcDDHAcNNAcTAcTHAcDAcDHAcNAcNHAcPAcPHAcBAcBHAcMAcMHAcYAcRAcRHAcLAcLHA
cWAcSHAcSSAcSAcHAbVOWEL SIGN AAdIdIIdUdUUdVOCALIC ReRReLeLLdEdAIdOdAUbSIGN VIRAMAcCANDRABINDU
cANUSVARAcVISARGAcNUKTAcAVAGRAHAcFINAL ANUSVARAbOMbSIDDHIbDANDAbDOUBLE DANDAbCOMMAbGAP FILLER
bABBREVIATION SIGNbDIGIT ZEROcONEcTWOcTHREEcFOURcFIVEcSIXcSEVENcEIGHTcNINEbDOUBLE COMMA
bPLACEHOLDER MARK:1145DaNEWA INSERTION SIGNbSANDHI MARKbLETTER VEDIC ANUSVARAbSIGN JIHVAMULIYA
cUPADHMANIYA:11480aTIRHUTA ANJIbLETTER AcAAcIcIIcUcUUcVOCALIC RdRRdLdLLcEcAIcOcAUcKAcKHAcGAcGHA
cNGAcCAcCHAcJAcJHAcNYAcTTAcTTHAcDDAcDDHAcNNAcTAcTHAcDAcDHAcNAcPAcPHAcBAcBHAcMAcYAcRAcLAcVAcSHAcSSA
cSAcHAbVOWEL SIGN AAdIdIIdUdUUdVOCALIC ReRReLeLLdEdSHORT EdAIdOdSHORT OdAUbSIGN CANDRABINDU
cANUSVARAcVISARGAcVIRAMAcNUKTAcAVAGRAHAbGVANGbABBREVIATION SIGNbOM:114D0aTIRHUTA DIGIT ZEROcONE
cTWOcTHREEcFOURcFIVEcSIXcSEVENcEIGHTcNINE:11580aSIDDHAM LETTER AcAAcIcIIcUcUUcVOCALIC RdRRdLdLLcE
cAIcOcAUcKAcKHAcGAcGHAcNGAcCAcCHAcJAcJHAcNYAcTTAcTTHAcDDAcDDHAcNNAcTAcTHAcDAcDHAcNAcPAcPHAcBAcBHA
cMAcYAcRAcLAcVAcSHAcSSAcSAcHAbVOWEL SIGN AAdIdIIdUdUUdVOCALIC ReRR:115B8aSIDDHAM VOWEL SIGN EdAIdO
dAUbSIGN CANDRABINDUcANUSVARAcVISARGAcVIRAMAcNUKTAcSIDDHAMbDANDAbDOUBLE DANDAbSEPARATOR DOTcBAR
bREPETITION MARK-1cMARK-2cMARK-3bEND OF TEXT MARKbSECTION MARK WITH TRIDENT AND U-SHAPED ORNAMENTS
gDOTTED CRESCENTSeRAYS AND DOTTED CRESCENTShDOUBLE CRESCENTShTRIPLE CRESCENTSdDOUBLE RING
fWITH RAYSdWITH DOUBLE CRESCENTSeTRIPLE CRESCENTSeQUADRUPLE CRESCENTSeSEPTUPLE CRESCENTS
eCIRCLES AND RAYSgTWO ENCLOSURESgFOUR ENCLOSURESbLETTER THREE-CIRCLE ALTERNATE I
cTWO-CIRCLE ALTERNATE IeIIcALTERNATE UbVOWEL SIGN ALTERNATE UeUU:11600aMODI LETTER AcAAcIcIIcUcUU
cVOCALIC RdRRdLdLLcEcAIcOcAUcKAcKHAcGAcGHAcNGAcCAcCHAcJAcJHAcNYAcTTAcTTHAcDDAcDDHAcNNAcTAcTHAcDA
cDHAcNAcPAcPHAcBAcBHAcMAcYAcRAcLAcVAcSHAcSSAcSAcHAcLLAbVOWEL SIGN AAdIdIIdUdUUdVOCALIC ReRReLeLLdE
dAIdOdAUbSIGN ANUSVARAcVISARGAcVIRAMAcARDHACANDRAbDANDAbDOUBLE DANDAbABBREVIATION SIGNbSIGN HUVA
:11650aMODI DIGIT ZEROcONEcTWOcTHREEcFOURcFIVEcSIXcSEVENcEIGHTcNINE:11660
aMONGOLIAN BIRGA WITH ORNAMENTbROTATED BIRGAbDOUBLE BIRGA WITH ORNAMENTbTRIPLE BIRGA WITH ORNAMENT
bBIRGA WITH DOUBLE ORNAMENTbROTATED BIRGA WITH ORNAMENTeDOUBLE ORNAMENTbINVERTED BIRGA
dWITH DOUBLE ORNAMENTbSWIRL BIRGAdWITH ORNAMENTeDOUBLE ORNAMENT
bTURNED SWIRL BIRGA WITH DOUBLE ORNAMENT:11680aTAKRI LETTER AcAAcIcIIcUcUUcEcAIcOcAUcKAcKHAcGAcGHA
cNGAcCAcCHAcJAcJHAcNYAcTTAcTTHAcDDAcDDHAcNNAcTAcTHAcDAcDHAcNAcPAcPHAcBAcBHAcMAcYAcRAcLAcVAcSHAcSA
cHAcRRAbSIGN ANUSVARAcVISARGAbVOWEL SIGN AAdIdIIdUdUUdEdAIdOdAUbSIGN VIRAMAcNUKTA
bLETTER ARCHAIC KHAbABBREVIATION SIGN:116C0aTAKRI DIGIT ZEROcONEcTWOcTHREEcFOURcFIVEcSIXcSEVEN
cEIGHTcNINE:11700aAHOM LETTER KAcKHAcNGAcNAcTAcALTERNATE TAcPAcPHAcBAcMAcJAcCHAcTHAcRAcLAcSAcNYA
cHAcAcDAcDHAcGAcALTERNATE GAcGHAcBHAcJHAcALTERNATE BA:1171DaAHOM CONSONANT SIGN MEDIAL LAeRA
eLIGATING RAbVOWEL SIGN AdAAdIdIIdUdUUdEdAWdOdAIdAMbSIGN KILLER:11730aAHOM DIGIT ZEROcONEcTWO
cTHREEcFOURcFIVEcSIXcSEVENcEIGHTcNINEbNUMBER TENcTWENTYbSIGN SMALL SECTIONcSECTIONcRULAIbSYMBOL VI
bLETTER CAcTTAcTTHAcDDAcDDHAcNNAcLLA:11800aDOGRA LETTER AcAAcIcIIcUcUUcEcAIcOcAUcKAcKHAcGAcGHAcNGA
cCAcCHAcJAcJHAcNYAcTTAcTTHAcDDAcDDHAcNNAcTAcTHAcDAcDHAcNAcPAcPHAcBAcBHAcMAcYAcRAcLAcVAcSHAcSSAcSA
cHAcRRAbVOWEL SIGN AAdIdIIdUdUUdVOCALIC ReRRdEdAIdOdAUbSIGN ANUSVARAcVISARGAcVIRAMAcNUKTA
bABBREVIATION SIGN:118A0aWARANG CITI CAPITAL LETTER NGAAeAeWIeYUeYAeYOeIIeUUeEeOeANGeGAeKOeENYeYUJ
eUCeENNeODDeTTEeNUNGeDAeATeAMeBUePUeHIYOeHOLOeHORReHAReSSUUeSIIeVIYOcSMALL LETTER NGAAeAeWIeYUeYA
eYOeIIeUUeEeOeANGeGAeKOeENYeYUJeUCeENNeODDeTTEeNUNGeDAeATeAMeBUePUeHIYOeHOLOeHORReHAReSSUUeSII
eVIYOcDIGIT ZEROdONEdTWOdTHREEdFOURdFIVEdSIXdSEVENdEIGHTdNINEcNUMBER TENdTWENTYdTHIRTYdFORTYdFIFTY
dSIXTYdSEVENTYdEIGHTYdNINETY:118FFaWARANG CITI OMaDIVES AKURU LETTER AdAAdIdIIdUdUUdE:11909
aDIVES AKURU LETTER O:1190CaDIVES AKURU LETTER KAdKHAdGAdGHAdNGAdCAdCHAdJA:11915
aDIVES AKURU LETTER NYAdTTA:11918aDIVES AKURU LETTER DDAdDDHAdNNAdTAdTHAdDAdDHAdNAdPAdPHAdBAdBHA
dMAdYAdYYAdRAdLAdVAdSHAdSSAdSAdHAdLLAdZAcVOWEL SIGN AAeIeIIeUeUUeE:11937aDIVES AKURU VOWEL SIGN AI
eO:1193BaDIVES AKURU SIGN ANUSVARAdCANDRABINDUdHALANTAcVIRAMAcPREFIXED NASAL SIGNcMEDIAL YA
cINITIAL RAcMEDIAL RAcSIGN NUKTAcDOUBLE DANDAcGAP FILLERcEND OF TEXT MARK:11950
aDIVES AKURU DIGIT ZEROdONEdTWOdTHREEdFOURdFIVEdSIXdSEVENdEIGHTdNINE:119A0aNANDINAGARI LETTER AcAA
cIcIIcUcUUcVOCALIC RdRR:119AAaNANDINAGARI LETTER EcAIcOcAUcKAcKHAcGAcGHAcNGAcCAcCHAcJAcJHAcNYAcTTA
cTTHAcDDAcDDHAcNNAcTAcTHAcDAcDHAcNAcPAcPHAcBAcBHAcMAcYAcRAcLAcVAcSHAcSSAcSAcHAcLLAcRRA
bVOWEL SIGN AAdIdIIdUdUUdVOCALIC ReRR:119DAaNANDINAGARI VOWEL SIGN EdAIdOdAUbSIGN ANUSVARAcVISARGA
cVIRAMAcAVAGRAHAcSIDDHAMbHEADSTROKEbVOWEL SIGN PRISHTHAMATRA E:11A00aZANABAZAR SQUARE LETTER A
cVOWEL SIGN IeUEeUeEeOEeOeAIeAUeREVERSED IdLENGTH MARKcLETTER KAdKHAdGAdGHAdNGAdCAdCHAdJAdNYAdTTA
dTTHAdDDAdDDHAdNNAdTAdTHAdDAdDHAdNAdPAdPHAdBAdBHAdMAdTSAdTSHAdDZAdDZHAdZHAdZAd-AdYAdRAdLAdVAdSHA
dSSAdSAdHAdKSSAcFINAL CONSONANT MARKcSIGN VIRAMAdCANDRABINDUeWITH ORNAMENTdCANDRA WITH ORNAMENT
dANUSVARAdVISARGAcCLUSTER-INITIAL LETTER RAcCLUSTER-FINAL LETTER YAeRAeLAeVAcINITIAL HEAD MARK
cCLOSING HEAD MARKcMARK TSHEGdSHADdDOUBLE SHADdLONG TSHEGcINITIAL DOUBLE-LINED HEAD MARK
cCLOSING DOUBLE-LINED HEAD MARKcSUBJOINER:11A50aSOYOMBO LETTER AbVOWEL SIGN IdUEdUdEdOdOEdAIdAU
dVOCALIC ReLcLENGTH MARKbLETTER KAcKHAcGAcGHAcNGAcCAcCHAcJAcJHAcNYAcTTAcTTHAcDDAcDDHAcNNAcTAcTHA
cDAcDHAcNAcPAcPHAcBAcBHAcMAcTSAcTSHAcDZAcZHAcZAc-AcYAcRAcLAcVAcSHAcSSAcSAcHAcKSSAbSIGN JIHVAMULIYA
cUPADHMANIYAbCLUSTER-INITIAL LETTER RAdLAdSHAdSAbFINAL CONSONANT SIGN GeKeNGeDeNeBeMeReLeSHeSe-A
bSIGN ANUSVARAcVISARGAbGEMINATION MARKbSUBJOINERbMARK TSHEGcSHADcDOUBLE SHADcPLUTA
bHEAD MARK WITH MOON AND SUN AND TRIPLE FLAMEiFLAMEgSUNbTERMINAL MARK-1cMARK-2:11AB0
aCANADIAN SYLLABICS NATTILIK HIdHIIdHOdHOOdHAdHAAdSHRIdSHRIIdSHROdSHROOdSHRAdSHRAAcSPEcSPIcSPOcSPA
aPAU CIN HAU LETTER PAeKAeLAeMAeDAeZAeVAeNGAeHAeGAeKHAeSAeBAeCAeTAeTHAeNAePHAeRAeFAeCHAeAeEeIeOeU
eUAeIAeFINAL PfKfTfMfNfLfWfNGfYdRISING TONE LONGeTONEdSANDHI GLOTTAL STOPdRISING TONE LONG FINAL
fFINALdSANDHI GLOTTAL STOP FINALeTONE LONGeTONEfLONG FINALfFINALdMID-LEVEL TONE
dGLOTTAL STOP VARIANTdMID-LEVEL TONE LONG FINALfFINALdLOW-FALLING TONE LONGeTONEdGLOTTAL STOP
dLOW-FALLING TONE LONG FINALfFINALdGLOTTAL STOP FINAL:11C00aBHAIKSUKI LETTER AcAAcIcIIcUcUU
cVOCALIC RdRRdL:11C0AaBHAIKSUKI LETTER EcAIcOcAUcKAcKHAcGAcGHAcNGAcCAcCHAcJAcJHAcNYAcTTAcTTHAcDDA
cDDHAcNNAcTAcTHAcDAcDHAcNAcPAcPHAcBAcBHAcMAcYAcRAcLAcVAcSHAcSSAcSAcHAbVOWEL SIGN AAdIdIIdUdUU
dVOCALIC ReRReL:11C38aBHAIKSUKI VOWEL SIGN EdAIdOdAUbSIGN CANDRABINDUcANUSVARAcVISARGAcVIRAMA
cAVAGRAHAbDANDAbDOUBLE DANDAbWORD SEPARATORbGAP FILLER-1cFILLER-2:11C50aBHAIKSUKI DIGIT ZEROcONE
cTWOcTHREEcFOURcFIVEcSIXcSEVENcEIGHTcNINEbNUMBER ONEcTWOcTHREEcFOURcFIVEcSIXcSEVENcEIGHTcNINEcTEN
cTWENTYcTHIRTYcFORTYcFIFTYcSIXTYcSEVENTYcEIGHTYcNINETYbHUNDREDS UNIT MARK:11C70aMARCHEN HEAD MARK
bMARK SHADbLETTER KAcKHAcGAcNGAcCAcCHAcJAcNYAcTAcTHAcDAcNAcPAcPHAcBAcMAcTSAcTSHAcDZAcWAcZHAcZAc-A
cYAcRAcLAcSHAcSAcHAcA:11C92aMARCHEN SUBJOINED LETTER KAdKHAdGAdNGAdCAdCHAdJAdNYAdTAdTHAdDAdNAdPA
dPHAdBAdMAdTSAdTSHAdDZAdWAdZHAdZA:11CA9aMARCHEN SUBJOINED LETTER YAdRAdLAdSHAdSAdHAdA
bVOWEL SIGN AAdIdUdEdObSIGN ANUSVARAcCANDRABINDU:11D00aMASARAM GONDI LETTER AdAAdIdIIdUdUUdE:11D08
aMASARAM GONDI LETTER AIdO:11D0BaMASARAM GONDI LETTER AUdKAdKHAdGAdGHAdNGAdCAdCHAdJAdJHAdNYAdTTA
dTTHAdDDAdDDHAdNNAdTAdTHAdDAdDHAdNAdPAdPHAdBAdBHAdMAdYAdRAdLAdVAdSHAdSSAdSAdHAdLLAdKSSAdJNYAdTRA
cVOWEL SIGN AAeIeIIeUeUUeVOCALIC R:11D3AaMASARAM GONDI VOWEL SIGN E:11D3C
aMASARAM GONDI VOWEL SIGN AIeO:11D3FaMASARAM GONDI VOWEL SIGN AUcSIGN ANUSVARAdVISARGAdNUKTA
dCANDRAdHALANTAcVIRAMAcREPHAcRA-KARA:11D50aMASARAM GONDI DIGIT ZEROdONEdTWOdTHREEdFOURdFIVEdSIX
dSEVENdEIGHTdNINE:11D60aGUNJALA GONDI LETTER AdAAdIdIIdUdUU:11D67aGUNJALA GONDI LETTER EEdAI:11D6A
aGUNJALA GONDI LETTER OOdAUdYAdVAdBAdBHAdMAdKAdKHAdTAdTHAdLAdGAdGHAdDAdDHAdNAdCAdCHAdTTAdTTHAdLLA
dJAdJHAdDDAdDDHAdNGAdPAdPHAdHAdRAdSAcVOWEL SIGN AAeIeIIeUeUU:11D90aGUNJALA GONDI VOWEL SIGN EEeAI
:11D93aGUNJALA GONDI VOWEL SIGN OOeAUcSIGN ANUSVARAdVISARGAcVIRAMAcOM:11DA0
aGUNJALA GONDI DIGIT ZEROdONEdTWOdTHREEdFOURdFIVEdSIXdSEVENdEIGHTdNINE:11EE0aMAKASAR LETTER KAcGA
cNGAcPAcBAcMAcTAcDAcNAcCAcJAcNYAcYAcRAcLAcVAcSAcAbANGKAbVOWEL SIGN IdUdEdObPASSIMBANG
bEND OF SECTION:11FB0aLISU LETTER YHA:11FC0aTAMIL FRACTION ONE THREE-HUNDRED-AND-TWENTIETH
dONE-HUNDRED-AND-SIXTIETHdEIGHTIETHdSIXTY-FOURTHdFORTIETHdTHIRTY-SECONDcTHREE EIGHTIETHS
dSIXTY-FOURTHScONE TWENTIETHdSIXTEENTH-1dSIXTEENTH-2dTENTHdEIGHTHcTHREE TWENTIETHSdSIXTEENTHS
cONE FIFTHdQUARTERdHALF-1dHALF-2cTHREE QUARTERScDOWNSCALING FACTOR KIIZHbSIGN NELcCEVITUcAAZHAAKKU
cUZHAKKUcMUUVUZHAKKUcKURUNIcPATHAKKUcMUKKURUNIcKAACUcPANAMcPONcVARAAKANcPAARAMcKUZHIcVELI
bWET CULTIVATION SIGNbDRY CULTIVATION SIGNbLAND SIGNbSALT PAN SIGNbTRADITIONAL CREDIT SIGN
cNUMBER SIGNbCURRENT SIGNbAND ODD SIGNbSPENT SIGNbTOTAL SIGNbIN POSSESSION SIGNbSTARTING FROM SIGN
bSIGN MUTHALIYAcVAKAIYARAA:11FFFaTAMIL PUNCTUATION END OF TEXTaCUNEIFORM SIGN AdTIMES AeBAD
eGAN2 TENUeHAeIGIeLAGAR GUNUeMUSHeSAGcA2cABdTIMES ASH2eDUN3 GUNUeGALeGAN2 TENUeHAeIGI GUNUeIMIN
eLAGABeSHESHeU PLUS U PLUS UdGUNUcAB2dTIMES BALAGeGAN2 TENUeME PLUS ENeSHA3eTAK4cADcAKdTIMES ERIN2
eSHITA PLUS GISHcALdTIMES ALeDIM2eGISHeHAeKAD3eKIeSHEeUSHcALANcALEPHcAMARdTIMES SHEcANdOVER AN
dTHREE TIMESdPLUS NAGA OPPOSING AN PLUS NAGAfSQUAREDcANSHEcAPINcARADdTIMES KURcARKABcASAL2cASH
dZIDA TENUdKABA TENUdOVER ASH TUG2 OVER TUG2 TUG2 OVER TUG2 PAPfOVER ASH
hCROSSING ASH OVER ASH OVER ASHcASH2cASHGABcBAcBADcBAG3cBAHAR2cBALdOVER BALcBALAGcBARcBARA2cBI
dTIMES AeGAReIGI GUNUcBUdOVER BU ABfUNdCROSSING BUcBULUGdOVER BULUGcBURcBUR2cDAcDAG
dKISIM5 TIMES A PLUS MASHfAMARfBALAGfBIfGAgPLUS MASHfGIfGIR2fGUDfHAfIRgPLUS LUfKAKfLAfLU
gPLUS MASH2fLUMfNEfPAP PLUS PAPfSIfTAK4fU2 PLUS GIR2fUSHcDAMcDARcDARA3cDARA4cDIcDIBcDIMdTIMES SHE
cDIM2cDINdKASKAL U GUNU DISHcDISHcDUdOVER DUdGUNUdSHESHIGcDUBdTIMES ESH2cDUB2cDUGcDUGUDcDUHcDUN
cDUN3dGUNUeGUNUcDUN4cDUR2cEdTIMES PAPdOVER E NUN OVER NUNcE2dTIMES A PLUS HA PLUS DAeGAReMIeSAL
eSHEeUcEDINcEGIRcELcENdTIMES GAN2fTENUeMEdCROSSING ENdOPPOSING ENdSQUAREDcERENcERIN2cESH2cEZEN
dTIMES AfPLUS LALhTIMES LALeANeBADeDUN3 GUNUgGUNUeHAfGUNUeIGI GUNUeKASKALfSQUAREDeKU3eLA
eLAL TIMES LALeLIeLUeU2eUDcGAdGUNUcGA2dTIMES A PLUS DA PLUS HAgHAgIGIeAB2 TENU PLUS TABeANeASH
eASH2 PLUS GALeBADeBAR PLUS RAeBURfPLUS RAeDAeDIeDIM TIMES SHEeDUBeELfPLUS LAeENfTIMES GAN2 TENU
eGAN2 TENUeGAReGIeGI4fPLUS AeGIR2 PLUS SUeHA PLUS LU PLUS ESH2eHALfPLUS LAeHI PLUS LIeHUB2
eIGI GUNUeISH PLUS HU PLUS ASHeKAKeKASKALeKIDfPLUS LALeKU3 PLUS ANeLAeME PLUS ENeMIeNUNfOVER NUN
ePAeSALeSAReSHEfPLUS TUReSHIDeSUMeTAK4eUeUDfPLUS DUdOVER GA2cGABAdCROSSING GABAcGAD
dOVER GAD GAR OVER GARcGALdGAD OVER GAD GAR OVER GARcGALAMcGAMcGANcGAN2dTENUdOVER GAN2
dCROSSING GAN2cGARcGAR3cGASHANcGESHTINdTIMES KURcGIdTIMES EeUdCROSSING GIcGI4dOVER GI4
dCROSSING GI4cGIDIMcGIR2dGUNUcGIR3dTIMES A PLUS IGIeGAN2 TENUeIGIeLU PLUS IGIePAcGISALcGISH
dCROSSING GISHdTIMES BADeTAK4dTENUcGUdCROSSING GUcGU2dTIMES KAKfTIMES IGI GUNUeNUNeSAL PLUS TUG2
dGUNUcGUDdTIMES A PLUS KUReKURdOVER GUD LUGALcGULcGUMdTIMES SHEcGURcGUR7cGURUNcGURUSHcHAdTENUdGUNU
cHALcHIdTIMES ASHeASH2eBADeDISHeGADeKINeNUNeSHEeUcHUcHUB2dTIMES ANeHALeKASKALeLISHeUDcHUL2cIdAcIB
cIDIMdOVER IDIM BURfSQUAREDcIGcIGIdDIBdRIdOVER IGI SHIR OVER SHIR UD OVER UDdGUNUcIL
dTIMES GAN2 TENUcIL2cIMdTIMES TAK4dCROSSING IMdOPPOSING IMdSQUAREDcIMINcINcIRcISHcKAdTIMES AeAD
fPLUS KU3eASH2eBADeBALAGeBAReBIeERIN2eESH2eGAeGALeGAN2 TENUeGARfPLUS SHA3 PLUS AeGIeGIR2
eGISH PLUS SARfCROSSING GISHeGUeGUR7eIGIeIMeKAKeKIeKIDeLIeLUeMEfPLUS DUgGIgTEeMIfPLUS NUNUZeNEeNUN
ePIeRUeSAeSAReSHAeSHEeSHIDeSHUeSIGeSUHUReTAReUeU2eUDeUMUM TIMES PAeUSHeZIcKA2dCROSSING KA2cKAB
cKAD2cKAD3cKAD4cKAD5dOVER KAD5cKAKdTIMES IGI GUNUcKALdTIMES BADdCROSSING KALcKAM2cKAM4cKASKAL
dLAGAB TIMES U OVER LAGAB TIMES UdOVER KASKAL LAGAB TIMES U OVER LAGAB TIMES UcKESH2cKIdTIMES BAD
eUeUDcKIDcKINcKISALcKISHcKISIM5dOVER KISIM5cKUdOVER HI TIMES ASH2 KU OVER HI TIMES ASH2cKU3cKU4
dVARIANT FORMcKU7cKULdGUNUcKUNcKURdOPPOSING KURcKUSHU2cKWU318cLAcLAGABdTIMES AfPLUS DA PLUS HAgGAR
gLALeALeANeASH ZIDA TENUeBADeBIeDAReENeGAeGAReGUDfPLUS GUDeHAeHALeHI TIMES NUNeIGI GUNUeIMfPLUS HA
gLUeKIeKINeKU3eKULfPLUS HI PLUS AeLAGABeLISHeLUeLULeMEfPLUS ENeMUSHeNEeSHE PLUS SUM
eSHITA PLUS GISH PLUS ERIN2hTENUeSHU2fPLUS SHU2eSUMeTAGeTAK4eTE PLUS A PLUS SU PLUS NAeUfPLUS A
gU PLUS UeU2 PLUS ASHeUDeUSHdSQUAREDcLAGARdTIMES SHEfPLUS SUMdGUNUeOVER LAGAR GUNU SHEcLAHSHUcLAL
dTIMES LALcLAMdTIMES KURfPLUS RUcLIcLILcLIMMU2cLISHcLUdTIMES BADcLU2dTIMES ALeBADeESH2fTENU
eGAN2 TENUeHI TIMES BADeIMeKAD2eKAD3fPLUS ASHeKIeLA PLUS ASHeLAGABeME PLUS ENeNEeNUeSI PLUS ASH
eSIK2 PLUS BUeTUG2dTENUdCROSSING LU2dOPPOSING LU2dSQUAREDdSHESHIGcLU3cLUGALdOVER LUGAL
dOPPOSING LUGALdSHESHIGcLUHcLULcLUMdOVER LUMfGAR OVER GARcMAdTIMES TAK4dGUNUcMA2cMAHcMARcMASH
cMASH2cMEcMEScMIcMINcMUdOVER MUcMUGdGUNUcMUNSUBcMURGU2cMUSHdTIMES AeKUReZAdOVER MUSH
fTIMES A PLUS NAdCROSSING MUSHcMUSH3dTIMES AfPLUS DIeDIdGUNUcNAcNA2cNAGAdINVERTEDdTIMES SHU TENU
dOPPOSING NAGAcNAGARcNAM NUTILLUcNAMcNAM2cNEdTIMES AeUDdSHESHIGcNIdTIMES EcNI2cNIMdTIMES GAN2 TENU
eGAR PLUS GAN2 TENUcNINDA2dTIMES ANeASHfPLUS ASHeGUDeME PLUS GAN2 TENUeNEeNUNeSHEfPLUS A ANgASH
hPLUS ASHeU2 PLUS ASHeUSHcNISAGcNUcNU11cNUNdLAGAR TIMES GARfMASHfSALgOVER NUN LAGAR TIMES SALfUSH
dTENUdOVER NUNdCROSSING NUNfLAGAR OVER LAGARcNUNUZdAB2 TIMES ASHGABfBIfDUGfGUDfIGI GUNUfKAD3fLAfNE
fSILA3fU2dKISIM5 TIMES BIgUcPAcPADcPANcPAPcPESH2cPIdTIMES AeABeBIeBUeEeIeIBeUeU2dCROSSING PIcPIRIG
dTIMES KALeUDeZAdOPPOSING PIRIGcRAcRABcRIcRUcSAcSAG NUTILLUcSAGdTIMES AeDUeDUBeHAeKAKeKUReLUMeMI
eNUNeSALeSHIDeTABeU2eUBeUMeUReUSHdOVER SAGdGUNUcSALdLAGAB TIMES ASH2cSANGA2cSARcSHAcSHA3dTIMES A
eBADeGISHeNEeSHU2eTUReUfPLUS AcSHA6cSHAB6cSHAR2cSHEdHUdOVER SHE GAD OVER GAD GAR OVER GAR
fTAB OVER TAB GAR OVER GARcSHEG9cSHENcSHESHcSHESH2cSHESHLAMcSHIDdTIMES AeIMcSHIMdTIMES AeBALeBULUG
eDINeGAReIGIfGUNUeKUSHU2eLULeMUGeSALcSHINIGcSHIRdTENUdOVER SHIR BUR OVER BURcSHITAcSHU
dOVER INVERTED SHUcSHU2cSHUBURcSIdGUNUcSIGcSIG4dOVER SIG4 SHU2cSIK2cSILA3cSUdOVER SUcSUDcSUD2
cSUHURcSUMcSUMASHcSURcSUR9cTAdASTERISKdTIMES HIeMIdGUNUcTABdOVER TAB NI OVER NI DISH OVER DISH
dSQUAREDcTAGdTIMES BIeGUDeSHEeSHUeTUG2eUDcTAK4cTARcTEdGUNUcTIdTENUcTILcTIRdTIMES TAK4dOVER TIR
fGAD OVER GAD GAR OVER GARcTUcTUG2cTUKcTUMcTURdOVER TUR ZA OVER ZAcUdGUDdU U
dOVER U PA OVER PA GAR OVER GARfSUR OVER SURfU REVERSED OVER U REVERSEDcU2cUBcUDdKUSHU2dTIMES BAD
eMIeU PLUS U PLUS UjGUNUdGUNUdSHESHIGeTIMES BADcUDUGcUMdTIMES LAGABeME PLUS DAeSHA3eUcUMBINcUMUM
dTIMES KASKALePAcUNdGUNUcURdCROSSING URdSHESHIGcUR2dTIMES A PLUS HAgNAeALeHAeNUNeU2fPLUS ASHgBI
cUR4cURIcURI3cURUdTIMES AeASHGABeBAReDUNeGAeGALeGAN2 TENUeGAReGUeHAeIGIeIMeISHeKIeLUMeMINePAeSHE
eSIG4eTUeU PLUS GUDeUDeURUDAcURUDAdTIMES UcUSHdTIMES AeKUeKUReTAK4cUSHXcUSH2cUSHUMXcUTUKIcUZ3
dTIMES KASKALcUZUcZAdTENUdSQUARED TIMES KURcZAGcZAMXcZE2cZIdOVER ZIcZI3cZIBdKABA TENUcZIGcZIZ2cZU
cZU5dTIMES AcZUBURcZUMcKAP ELAMITEcAB TIMES NUNcAB2 TIMES AcAMAR TIMES KUG
cDAG KISIM5 TIMES U2 PLUS MASHcDAG3cDISH PLUS SHUcDUB TIMES SHEcEZEN TIMES GUDeSHE
cGA2 TIMES AN PLUS KAK PLUS AeASH2cGE22cGIGcHUSHcKA TIMES ANSHEeASH3eGISHeGUDeHI TIMES ASH2eLUMePA
eSHULeTUeUR2cLAGAB TIMES GIcLU2 SHESHIG TIMES BADdTIMES ESH2 PLUS LALeSHUcMESHcMUSH3 TIMES ZAcNA4
cNINcNIN9cNINDA2 TIMES BALeGIcNU11 ROTATED NINETY DEGREEScPESH2 ASTERISKcPIR2cSAG TIMES IGI GUNU
cTI2cUM TIMES MEcU U:12400aCUNEIFORM NUMERIC SIGN TWO ASHdTHREE ASHdFOUR ASHdFIVE ASHdSIX ASH
dSEVEN ASHdEIGHT ASHdNINE ASHdTHREE DISHdFOUR DISHdFIVE DISHdSIX DISHdSEVEN DISHdEIGHT DISH
dNINE DISHdFOUR UdFIVE UdSIX UdSEVEN UdEIGHT UdNINE UdONE GESH2dTWO GESH2dTHREE GESH2dFOUR GESH2
dFIVE GESH2dSIX GESH2dSEVEN GESH2dEIGHT GESH2dNINE GESH2dONE GESHUdTWO GESHUdTHREE GESHU
dFOUR GESHUdFIVE GESHUdTWO SHAR2dTHREE SHAR2fVARIANT FORMdFOUR SHAR2dFIVE SHAR2dSIX SHAR2
dSEVEN SHAR2dEIGHT SHAR2dNINE SHAR2dONE SHARUdTWO SHARUdTHREE SHARUfVARIANT FORMdFOUR SHARU
dFIVE SHARUdSHAR2 TIMES GAL PLUS DISHhMINdONE BURUdTWO BURUdTHREE BURUfVARIANT FORMdFOUR BURU
dFIVE BURUdTHREE VARIANT FORM ESH16gESH21dFOUR VARIANT FORM LIMMUgLIMMU4gLIMMU AhB
dSIX VARIANT FORM ASH9dSEVEN VARIANT FORM IMIN3gIMIN AhBdEIGHT VARIANT FORM USSUgUSSU3
dNINE VARIANT FORM ILIMMUgILIMMU3gILIMMU4gILIMMU AdTWO ASH TENUdTHREE ASH TENUdFOUR ASH TENU
dFIVE ASH TENUdSIX ASH TENUdONE BAN2dTWO BAN2dTHREE BAN2dFOUR BAN2fVARIANT FORMdFIVE BAN2
fVARIANT FORMdNIGIDAMINdNIGIDAESHdONE ESHE3dTWO ESHE3dONE THIRD DISHdTWO THIRDS DISH
dFIVE SIXTHS DISHdONE THIRD VARIANT FORM AdTWO THIRDS VARIANT FORM AdONE EIGHTH ASHeQUARTER ASH
dOLD ASSYRIAN ONE SIXTHgQUARTERdONE QUARTER GUReHALF GURdELAMITE ONE THIRDeTWO THIRDSeFORTYeFIFTY
dFOUR U VARIANT FORMdFIVE U VARIANT FORMdSIX U VARIANT FORMdSEVEN U VARIANT FORM
dEIGHT U VARIANT FORMdNINE U VARIANT FORM:12470
aCUNEIFORM PUNCTUATION SIGN OLD ASSYRIAN WORD DIVIDERdVERTICAL COLONdDIAGONAL COLONeTRICOLON
eQUADCOLON:12480aCUNEIFORM SIGN AB TIMES NUN TENUeSHU2cAD TIMES ESH2cBAD TIMES DISH TENU
cBAHAR2 TIMES AB2eNIeZAcBU OVER BU TIMES NA2cDA TIMES TAK4cDAG TIMES KURcDIM TIMES IGIeU U U
cDIM2 TIMES UDcDUG TIMES ANSHEeASHfAT LEFTeDINeDUNeERIN2eGAeGIeGIR2 GUNUeGISHeHAeHIeIGI GUNU
eKASKALeKUReKUSHU2fPLUS KASKALeLAK-020eLAMfTIMES KUReLUH PLUS GISHeMASHeMESeMIeNIePIeSHEeSI GUNU
cE2 TIMES KURePAPcERIN2 XcESH2 CROSSING ESH2cEZEN SHESHIG TIMES ASHfHIfIGI GUNUfLAfLALfMEfMESfSU
dTIMES SUcGA2 TIMES BAHAR2eDIM GUNUeDUG TIMES IGI GUNUgKASKALeERENeGAeGAR PLUS DIgNEeHA PLUS A
eKUSHU2 PLUS KASKALeLAMfTIMES KUReLUHeMUSHeNEfPLUS E2gGIeSHIMeZIZ2cGABA ROTATED NINETY DEGREES
cGESHTIN TIMES UcGISH TIMES GISH CROSSING GISHcGU2 TIMES IGI GUNUcGUD PLUS GISH TIMES TAK4
cHA TENU GUNUcHI TIMES ASH OVER HI TIMES ASHcKA TIMES BUeKAeU U UeURcLAGAB TIMES ZU OVER ZU
cLAK-003cLAK-021cLAK-025cLAK-030cLAK-050cLAK-051cLAK-062cLAK-079 OVER LAK-079 GUNUcLAK-080
cLAK-081 OVER LAK-081cLAK-092cLAK-130cLAK-142cLAK-210cLAK-219cLAK-220cLAK-225cLAK-228cLAK-238
cLAK-265cLAK-266cLAK-343cLAK-347cLAK-348cLAK-383cLAK-384cLAK-390cLAK-441cLAK-449dTIMES GUeIGI
ePAP PLUS LU3gPAP PLUS LU3eU2 PLUS BAcLAK-450cLAK-457cLAK-470cLAK-483cLAK-490cLAK-492cLAK-493
cLAK-495cLAK-550cLAK-608cLAK-617dTIMES ASHeBADeDUN3 GUNU GUNUeKU3eLAeTAReTEeU2eUDeURUDAcLAK-636
cLAK-648dTIMES DUBeGAeIGIfGUNUeNIePAP PLUS PAP PLUS LU3eSHESH PLUS KIeUDeURUDAcLAK-724cLAK-749
cLU2 GUNU TIMES ASHdTIMES DISHeHALePAPfPLUS PAP PLUS LU3eTAK4cMI PLUS ZA7cMUSH OVER MUSH TIMES GA
gKAKcNINDA2 TIMES DIM GUNUeGISHeGULeHIeKESH2eLAK-050eMASHePAP PLUS PAPeUfPLUS UeURUDA
cSAG GUNU TIMES HAdTIMES ENeSHE AT LEFTeTAK4cSHA6 TENUcSHE OVER SHEdPLUS HUB2eNAM2eSAR
cSHU2 PLUS DUG TIMES NIeE2 TIMES ANcSI TIMES TAK4cTAK4 PLUS SAGcTUM TIMES GAN2 TENUeTHREE DISH
cUR2 INVERTEDdTIMES UDcURU TIMES DARA3eLAK-668eLU3cZA7cZU OVER ZU PLUS SAR
cZU5 TIMES THREE DISH TENU:12F90aCYPRO-MINOAN SIGN CM001cCM002cCM004cCM005cCM006cCM007cCM008cCM009
cCM010cCM011cCM012cCM012BcCM013cCM015cCM017cCM019cCM021cCM023cCM024cCM025cCM026cCM027cCM028cCM029
cCM030cCM033cCM034cCM035cCM036cCM037cCM038cCM039cCM040cCM041cCM044cCM046cCM047cCM049cCM050cCM051
cCM052cCM053cCM054cCM055cCM056cCM058cCM059cCM060cCM061cCM062cCM063cCM064cCM066cCM067cCM068cCM069
cCM070cCM071cCM072cCM073cCM074cCM075cCM075BcCM076cCM078cCM079cCM080cCM081cCM082cCM083cCM084cCM085
cCM086cCM087cCM088cCM089cCM090cCM091cCM092cCM094cCM095cCM096cCM097cCM098cCM099cCM100cCM101cCM102
cCM103cCM104cCM105cCM107cCM108cCM109cCM110cCM112cCM114cCM301cCM302"

end TicketMigration.CharacterName
