import ChatRiddles.Text.Names.Run
/-!
The names of ancient scripts of the Mediterranean and the Near East.
-/

namespace ChatRiddles.Text.Names

/-- The names of ancient scripts of the Mediterranean and the Near East. -/
def ancient : List Run := [
  ⟨0x10000, "
aLINEAR B SYLLABLE B008 Au38 Eu28 Iu61 Ou10 Uu01 DAu45 DEu07 DIu14 DOu51 DUv7 JAu46 JE"⟩,
  ⟨0x1000d, "
aLINEAR B SYLLABLE B036 JOu65 JUu77 KAu44 KEu67 KIu70 KOu81 KUv0 MAu13 MEu73 MIu15 MOu23 MU
u06 NAu24 NEu30 NIu52 NOv5 NUu03 PAu72 PEu39 PIu11 POu50 PUu16 QAu78 QEu21 QIu32 QO"⟩,
  ⟨0x10028, "
aLINEAR B SYLLABLE B060 RAu27 REu53 RIu02 ROu26 RUu31 SAu09 SEu41 SIu12 SOu58 SUv9 TAu04 TE
u37 TIu05 TOu69 TUu54 WAu75 WEu40 WIv2 WO"⟩,
  ⟨0x1003c, "aLINEAR B SYLLABLE B017 ZAu74 ZE"⟩,
  ⟨0x1003f, "
aLINEAR B SYLLABLE B020 ZOv5 A2u43 A3u85 AUu71 DWEu90 DWOu48 NWAu29 PU2u62 PTEu76 RA2u33 RA3
u68 RO2v6 TA2u87 TWEu91 TWO"⟩,
  ⟨0x10050, "aLINEAR B SYMBOL B018t9s22s34s47t9s56s63t4s79s82t3t6t9"⟩,
  ⟨0x10080, "
aLINEAR B IDEOGRAM B100 MANv2 WOMANv4 DEERv5 EQUIDwF MAREwM STALLIONv6F EWEwM RAMv7F SHE-GOAT
wM HE-GOATv8F SOWwM BOARv9F COWwM BULLu20 WHEATv1 BARLEYv2 OLIVEv3 SPICEv5 CYPERUS
jMONOGRAM B127 KAPOv8 KANAKOjIDEOGRAM B130 OILv1 WINEv2jMONOGRAM B133 AREPAv5 MERI
jIDEOGRAM B140 BRONZEv1 GOLDv2v5 WOOLv6u50v1 HORNv2v3v4jMONOGRAM B156 TURO2jIDEOGRAM B157v8
v9 CLOTHu60v1v2 GARMENTv3 ARMOURv4v5v6v7v8v9u70v1v2v3 MONTHv4v6 TREEv7v8v9u80v1v2v3v4v5v9u90
v1 HELMETt220 FOOTSTOOLv5 BATHTUBu30 SPEARv1 ARROWv2v3 SWORDv4v6u40 WHEELED CHARIOTv1 CHARIOT
v2 CHARIOT FRAMEv3 WHEELv5v6jMONOGRAM B247 DIPTEjIDEOGRAM B248v9u51v2v3v4 DARTv5v6v7v8v9
sVESSEL B155zB200zB201zB202zB203zB204zB205zB206zB207zB208zB209zB210zB211zB212zB213zB214zB215
zB216zB217zB218zB219zB221zB222zB226zB227zB228zB229zB250zB305"⟩,
  ⟨0x10100, "aAEGEAN WORD SEPARATOR LINEwDOThCHECK MARK"⟩,
  ⟨0x10107, "
aAEGEAN NUMBER ONEoTWOpHREEoFOURpIVEoSIXpEVENoEIGHToNINEoTENpWENTYpHIRTYoFORTYpIFTYoSIXTYpEVENTY
oEIGHTYoNINETYoONE HUNDREDoTWO HUNDREDpHREE HUNDREDoFOUR HUNDREDpIVE HUNDREDoSIX HUNDRED
pEVEN HUNDREDoEIGHT HUNDREDoNINE HUNDREDoONE THOUSANDoTWO THOUSANDpHREE THOUSANDoFOUR THOUSAND
pIVE THOUSANDoSIX THOUSANDpEVEN THOUSANDoEIGHT THOUSANDoNINE THOUSANDoTEN THOUSAND
pWENTY THOUSANDpHIRTY THOUSANDoFORTY THOUSANDpIFTY THOUSANDoSIXTY THOUSANDpEVENTY THOUSAND
oEIGHTY THOUSANDoNINETY THOUSAND"⟩,
  ⟨0x10137, "
aAEGEAN WEIGHT BASE UNIToFIRST SUBUNIToSECOND SUBUNIToTHIRD SUBUNIToFOURTH SUBUNIT
hDRY MEASURE FIRST SUBUNIThLIQUID MEASURE FIRST SUBUNIThMEASURE SECOND SUBUNITpTHIRD SUBUNIT
aGREEK ACROPHONIC ATTIC ONE QUARTERzE HALFzE DRACHMAxFIVEzFTYzVE HUNDREDzVE THOUSAND
zFTY THOUSANDzVE TALENTSxTEN TALENTSxFIFTY TALENTSxONE HUNDRED TALENTSxFIVE HUNDRED TALENTS
xONE THOUSAND TALENTSxFIVE THOUSAND TALENTSzVE STATERSxTEN STATERSxFIFTY STATERS
xONE HUNDRED STATERSxFIVE HUNDRED STATERSxONE THOUSAND STATERSxTEN THOUSAND STATERS
xFIFTY THOUSAND STATERSxTEN MNASrHERAEUM ONE PLETHRONrTHESPIAN ONErHERMIONIAN ONErEPIDAUREAN TWO
rTHESPIAN TWOrCYRENAIC TWO DRACHMASrEPIDAUREAN TWO DRACHMASrTROEZENIAN FIVEzAN TEN
zAN TEN ALTERNATE FORMrHERMIONIAN TENrMESSENIAN TENrTHESPIAN TENz THIRTYsROEZENIAN FIFTY
zAN FIFTY ALTERNATE FORMrHERMIONIAN FIFTYrTHESPIAN FIFTYz ONE HUNDREDz THREE HUNDRED
rEPIDAUREAN FIVE HUNDREDrTROEZENIAN FIVE HUNDREDsHESPIAN FIVE HUNDREDrCARYSTIAN FIVE HUNDRED
rNAXIAN FIVE HUNDREDrTHESPIAN ONE THOUSANDz FIVE THOUSANDrDELPHIC FIVE MNASrSTRATIAN FIFTY MNAS
gONE HALF SIGNt ALTERNATE FORMgTWO THIRDS SIGNhHREE QUARTERS SIGNgYEAR SIGNgTALENT SIGN
gDRACHMA SIGNgOBOL SIGNgTWO OBOLS SIGNhHREE OBOLS SIGNgFOUR OBOLS SIGNhIVE OBOLS SIGN
gMETRETES SIGNgKYATHOS BASE SIGNgLITRA SIGNgOUNKIA SIGNgXESTES SIGNgARTABE SIGNiOURA SIGN
gGRAMMA SIGNgTRYBLION BASE SIGNgZERO SIGNgONE QUARTER SIGNgSINUSOID SIGNgINDICTION SIGN
aNOMISMA SIGN"⟩,
  ⟨0x10190, "
aROMAN SEXTANS SIGNgUNCIA SIGNgSEMUNCIA SIGNiXTULA SIGNgDIMIDIA SEXTULA SIGNgSILIQUA SIGN
gDENARIUS SIGNgQUINARIUS SIGNgSESTERTIUS SIGNgDUPONDIUS SIGNgAS SIGNgCENTURIAL SIGNaASCIA SYMBOL"⟩,
  ⟨0x101a0, "aGREEK SYMBOL TAU RHO"⟩,
  ⟨0x101d0, "
aPHAISTOS DISC SIGN PEDESTRIANuLUMED HEADtTATTOOED HEADtCAPTIVEuHILDtWOMANtHELMETtGAUNTLETtTIARA
tARROWtBOWtSHIELDtCLUBtMANACLESvTTOCKtSAWtLIDtBOOMERANGtCARPENTRY PLANEtDOLIUMtCOMBtSLINGtCOLUMN
tBEEHIVEtSHIPtHORNuIDEtBULLS LEGtCATtRAMtEAGLEtDOVEtTUNNYtBEEtPLANE TREEtVINEtPAPYRUStROSETTE
tLILYtOX BACKtFLUTEtGRATERtSTRAINERuMALL AXEtWAVY BANDtCOMBINING OBLIQUE STROKE"⟩,
  ⟨0x10280, "aLYCIAN LETTER AoEoBpHoGoDoIoWoZoTHoJoKoQoLoMoNoMMoNNoUoPoKKoRoSoTpToANoENoHoX"⟩,
  ⟨0x102a0, "
aCARIAN LETTER AoP2oDoLoUUUoRoLDoA2oQoBoMoOoD2oToSHq2poC-18oUoNNoXoNoTT2oPoSSoIoEoUUUUoKp2oNDoUU
oGp2oSTq2oNGoIIoC-39oTToUUU2oRRoMBq2q3q4oLD2oE2oUUU3"⟩,
  ⟨0x102e0, "
aCOPTIC EPACT THOUSANDS MARKnDIGIT ONEtTWOuHREEtFOURuIVEtSIXuEVENtEIGHTtNINEnNUMBER TENvWENTY
vHIRTYuFORTYvIFTYuSIXTYvEVENTYuEIGHTYuNINETYuONE HUNDREDuTWO HUNDREDvHREE HUNDREDuFOUR HUNDRED
vIVE HUNDREDuSIX HUNDREDvEVEN HUNDREDuEIGHT HUNDREDuNINE HUNDRED"⟩,
  ⟨0x10300, "
aOLD ITALIC LETTER AsBEsKEsDEsEsVEsZEsHEsTHEsIsKAsELtMtNtSHsOsPEsSHEsKUsERtSsTEsUsEKSsPHEsKHEsEF
tRSsCHEsIIsUUsESSlNUMERAL ONEtFIVEtTENtFIFTY"⟩,
  ⟨0x1032d, "
aOLD ITALIC LETTER YEsNORTHERN TSEsSOUTHERN TSEaGOTHIC LETTER AHSAoBAIRKANoGIBAoDAGSoAIHVUS
oQAIRTHRAoIUJAoHAGLoTHIUTHoEISoKUSMAoLAGUSoMANNAoNAUTHSoJERoURUSoPAIRTHRAoNINETYoRAIDAoSAUIL
oTEIWSoWINJAoFAIHUoIGGWSoHWAIRoOTHALoNINE HUNDRED"⟩,
  ⟨0x10350, "
aOLD PERMIC LETTER ANsBURsGAIsDOIsEsZHOIsDZHOIsZATAsDZITAsIsKOKEsLEIsMENOEsNENOEsVOOIsPEEIsREI
sSIIsTAIsUsCHERYsSHOOIuCHOOIsYRYtERUsOtOsEFsHAsTSIUsVERsYERvItATsIEsYUtAsIA
aCOMBINING OLD PERMIC LETTER ANzER DOIzER ZATAzER NENOEzER SII"⟩,
  ⟨0x10380, "
aUGARITIC LETTER ALPAqBETAqGAMLAqKHAqDELTAqHOqWOqZETAqHOTAqTETqYODqKAFqSHINqLAMDAqMEMqDHALqNUN
qZUqSAMKAqAINqPUqSADEqQOPAqRASHAqTHANNAqGHAINqTOqIqUqSSU"⟩,
  ⟨0x1039f, "
aUGARITIC WORD DIVIDERaOLD PERSIAN SIGN ArIrUrKAsUrGAsUrXArCArJAsIrTAsUrDAsIsUrTHArPArBArFArNAsU
rMAsIsUrYArVAsIrRAsUrLArSArZArSHAsSArHA"⟩,
  ⟨0x103c8, "
aOLD PERSIAN SIGN AURAMAZDAAzAA-2zAAHArXSHAAYATHIYArDAHYAAUSHzH-2rBAGAsUUMISHmWORD DIVIDER
mNUMBER ONEtTWOuENuWENTYtHUNDRED"⟩,
  ⟨0x10400, "
aDESERET CAPITAL LETTER LONG IzNG EzNG AzNG AHzNG OzNG OOxSHORT IzORT EzORT AzORT AHzORT O
zORT OOxAYxOWxWUxYEExHxPEExBEExTEExDEExCHEExJEExKAYxGAYxEFxVEExETHxTHEExESxZEExESHxZHEExERyLyMyN
zGxOIxEWiSMALL LETTER LONG Iz Ez Az AHz Oz OOvSHORT IzT EzT AzT AHzT OzT OOvAYvOWvWUvYEEvHvPEE
vBEEvTEEvDEEvCHEEvJEEvKAYvGAYvEFvVEEvETHvTHEEvESvZEEvESHvZHEEvERwLwMwNxGvOIvEW
aSHAVIAN LETTER PEEPpTOTpKICKpFEEpTHIGHpSOqUREpCHURCHpYEApHUNGpBIBpDEADpGAGpVOWpTHEYpZOOpMEASURE
pJUDGEpWOEpHA-HApLOLLpMIMEpIFpEGGpASHqDOpONpWOOLpOUTpAHpROARpNUNpEATpAGEpICEpUPpOAKqOZEqILpAWE
qREpORpAIRpERRpARRAYpEARpIANpYEWaOSMANYA LETTER ALEFpBApTApJApXApKHApDEELpRApSAqHIINpDHApCAYNpGA
pFApQAAFpKAAFpLAANpMIINpNUUNpWAWpHApYApApEpIpOpUpAApEEpOO"⟩,
  ⟨0x104a0, "aOSMANYA DIGIT ZEROoONEoTWOpHREEoFOURpIVEoSIXpEVENoEIGHToNINE"⟩,
  ⟨0x104b0, "
aOSAGE CAPITAL LETTER AwIxNwHvBRAvCHAvEHCHAwwINvHAwYAvIvKAvEHKAvKYAvLAvMAvNAvOwINvPAvEHPAvSAwHA
vTAvEHTAvTSAvEHTSAvTSHAvDHAvUvWAvKHAvGHAvZAwHA"⟩,
  ⟨0x104d8, "
aOSAGE SMALL LETTER AuIvNuHtBRAtCHAtEHCHAuuINtHAuYAtItKAtEHKAtKYAtLAtMAtNAtOuINtPAtEHPAtSAuHAtTA
tEHTAtTSAtEHTSAtTSHAtDHAtUtWAtKHAtGHAtZAuHA"⟩,
  ⟨0x10500, "
aELBASAN LETTER ApBEpCEqHEpDEpNDEpDHEpEIqpFEpGEqJEpHEpIpJEpKEpLEqLEpMEpNEqAqJEpOpPEpQEpREqREpSE
qHEpTEqHEpUpVEpXEpYpZEqHEpGHErAMMApKHE"⟩,
  ⟨0x10530, "
aCAUCASIAN ALBANIAN LETTER ALTz BETz GIMz DATz EBz ZARLz EYNz ZHILz TASz CHAz YOWDz ZHAz IRB
z SHAz LANz INYAz XEYNz DYANz CARz JHOXz KARz LYITz HEYTz QAYz AORz CHOYz CHIz CYAYz MAQz QAR
z NOWCz DZYAYz SHAKz JAYNz ONz TYAYz FAMz DZAYz CHATz PENz GHEYSz RATz SEYKz VEYZz TIWRz SHOY
z IWNz CYAWz CAYNz YAYDz PIWRz KIW"⟩,
  ⟨0x1056f, "
aCAUCASIAN ALBANIAN CITATION MARKaVITHKUQI CAPITAL LETTER AyBBEzEyCEzHEyDEzHEyEIzyFEyGA"⟩,
  ⟨0x1057c, "aVITHKUQI CAPITAL LETTER HAzHAyIzJEyJEyKAyLAzLAyMEyNEzJEyOyPEyQAyRE"⟩,
  ⟨0x1058c, "aVITHKUQI CAPITAL LETTER SEzHEyTEzHEyUyVEyXE"⟩,
  ⟨0x10594, "aVITHKUQI CAPITAL LETTER YyZE"⟩,
  ⟨0x10597, "aVITHKUQI SMALL LETTER AwBBExEwCExHEwDExHEwEIxwFEwGA"⟩,
  ⟨0x105a3, "aVITHKUQI SMALL LETTER HAxHAwIxJEwJEwKAwLAxLAwMEwNExJEwOwPEwQAwRE"⟩,
  ⟨0x105b3, "aVITHKUQI SMALL LETTER SExHEwTExHEwUwVEwXE"⟩,
  ⟨0x105bb, "aVITHKUQI SMALL LETTER YwZE"⟩,
  ⟨0x10600, "
aLINEAR A SIGN AB001s2s3s4s5s6s7s8s9r10s1s3s6s7r20s1tFtMs2tFtMs3tMs4s6s7s8p028BpB029r30s1s4s7s8
s9r40s1s4s5s6s7s8s9r50s1s3s4s5s6s7s8s9r60s1s5s6s7s9r70s3s4s6s7s8s9r80s1s2s5s6s7p100-102pB118r20
p120BpB122s3r31AtBp131CpB164r71r80s8r91p301r2r3r4r5r6r7r8r9AsBsCq10r1r2r3AsBsCr4r5r6r7r8r9q20r1
r2r3r4r5r6r7r8r9q30r1r2r3r4r5r6r7r8r9q40r1r2r3r4r5r6r7r8r9q50r1r2r3r4r5r6r7r8r9q60r1r2r3r4r5r6r7
r8r9q70r1p400-VASr1-VASr2-VASr3-VASr4-VASr5-VASr6-VASr7-VASr8-VASr9-VASq10-VASr1-VASr2-VASr3-VAS
r4-VASr5-VASr6-VASr7-VASr8-VASp501r2r3r4r5r6r8r9q10r1r2r3r5r6q20r1r3r4r5r6r7r8r9q30r1r2r4r5r6r7
r8r9q40r1r2r5r7r8r9q50r1r2r3r4r5r6r7r9q63r4r5r6r8r9q70r1r2r3r4r5r6r7r8r9q80r1r2r3r4r5r6r7r8r9q91
r2r4r5r6r8p600r1r2r3r4r6r8r9q10r1r2r3r4r5r6r7r8r9q20r1r2r3r4r6r7r8r9q34r7r8q40r2r3r4r5r6r8r9q51
r2r3r4r5r6r7r8r9q60r1r2r3r4"⟩,
  ⟨0x10740, "
aLINEAR A SIGN A701 Ar2 Br3 Dr4 Er5 Fr6 Hr7 Jr8 Kr9 Ls-2 L2t3 L3t4 L4t6 L6q10 Wr1 Xr2 Yr3 OMEGA
r4 ABBr5 BBr7 DDq26 EYYYq32 JE"⟩,
  ⟨0x10760, "aLINEAR A SIGN A800r1r2r3r4r5r6r7"⟩,
  ⟨0x10780, "
aMODIFIER LETTER SMALL CAPITAL AArUPERSCRIPT TRIANGULAR COLONzPT HALF TRIANGULAR COLONrMALL AE
wCAPITAL BwB WITH HOOK"⟩,
  ⟨0x10787, "
aMODIFIER LETTER SMALL DZ DIGRAPHzDIGRAPH WITH RETROFLEX HOOKzDIGRAPH WITH CURLxEZH DIGRAPH
x WITH TAILzITH HOOKzITH HOOK AND TAILwREVERSED EwCLOSED REVERSED OPEN EwFENG DIGRAPHwRAMS HORN
wCAPITAL GwG WITH HOOKwCAPITAL G WITH HOOKwH WITH STROKEwCAPITAL HwHENG WITH HOOK
wDOTLESS J WITH STROKE AND HOOKwLS DIGRAPHxZ DIGRAPHx WITH BELTwCAPITAL L WITH BELT
wL WITH RETROFLEX HOOK AND BELTxEZHzH WITH RETROFLEX HOOKwTURNED YzNED Y WITH BELTwO WITH STROKE
wCAPITAL OExLOSED OMEGAwQwTURNED R WITH LONG LEGzNED R WITH LONG LEG AND RETROFLEX HOOK
wR WITH TAILzITH FISHHOOKwCAPITAL RwTC DIGRAPH WITH CURLxS DIGRAPHzDIGRAPH WITH RETROFLEX HOOK
xESH DIGRAPHx WITH RETROFLEX HOOKwV WITH RIGHT HOOK"⟩,
  ⟨0x107b2, "
aMODIFIER LETTER SMALL CAPITAL YqGLOTTAL STOP WITH STROKEqREVERSED GLOTTAL STOP WITH STROKE
qBILABIAL CLICKqDENTAL CLICKqLATERAL CLICKqALVEOLAR CLICKqRETROFLEX CLICK WITH RETROFLEX HOOK
qSMALL S WITH CURL"⟩,
  ⟨0x10800, "aCYPRIOT SYLLABLE ArErIrOrUrJA"⟩,
  ⟨0x10808, "aCYPRIOT SYLLABLE JO"⟩,
  ⟨0x1080a, "
aCYPRIOT SYLLABLE KAsEsIsOsUrLAsEsIsOsUrMAsEsIsOsUrNAsEsIsOsUrPAsEsIsOsUrRAsEsIsOsUrSAsEsIsOsU
rTAsEsIsOsUrWAsEsIsO"⟩,
  ⟨0x10837, "aCYPRIOT SYLLABLE XAsE"⟩,
  ⟨0x1083c, "aCYPRIOT SYLLABLE ZA"⟩,
  ⟨0x1083f, "
aCYPRIOT SYLLABLE ZOaIMPERIAL ARAMAIC LETTER ALEPHyBETHyGIMELyDALETHyHEyWAWyZAYINyHETHyTETHyYODH
yKAPHyLAMEDHyMEMyNUNySAMEKHyAYINyPEySADHEyQOPHyRESHySHINyTAW"⟩,
  ⟨0x10857, "
aIMPERIAL ARAMAIC SECTION SIGNrNUMBER ONEyTWOzHREEzENzWENTYyONE HUNDREDzNE THOUSANDyTEN THOUSAND
aPALMYRENE LETTER ALEPHrBETHrGIMELrDALETHrHErWAWrZAYINrHETHrTETHrYODHrKAPHrLAMEDHrMEMrFINAL NUN
rNUNrSAMEKHrAYINrPErSADHErQOPHrRESHrSHINrTAWmFT-POINTING FLEURONkRIGHT-POINTING FLEURON
kNUMBER ONErTWOsHREErFOURsIVErTENsWENTYaNABATAEAN LETTER FINAL ALEPHrALEPHrFINAL BETHrBETHrGIMEL
rDALETHrFINAL HErHErWAWrZAYINrHETHrTETHrFINAL YODHrYODHrFINAL KAPHrKAPHrFINAL LAMEDHrLAMEDH
rFINAL MEMrMEMrFINAL NUNrNUNrSAMEKHrAYINrPErSADHErQOPHrRESHrFINAL SHINrSHINrTAW"⟩,
  ⟨0x108a7, "
aNABATAEAN NUMBER ONErTWOsHREErFOURkCRUCIFORM NUMBER FOURkNUMBER FIVErTENsWENTYrONE HUNDRED"⟩,
  ⟨0x108e0, "
aHATRAN LETTER ALEPHoBETHoGIMELoDALETH-RESHoHEoWAWoZAYNoHETHoTETHoYODHoKAPHoLAMEDHoMEMoNUN
oSAMEKHoAYNoPEoSADHEoQOPH"⟩,
  ⟨0x108f4, "aHATRAN LETTER SHINoTAW"⟩,
  ⟨0x108fb, "
aHATRAN NUMBER ONEoFIVEoTENpWENTYoONE HUNDREDaPHOENICIAN LETTER ALFsBETsGAMLsDELTsHEsWAUsZAIsHET
sTETsYODsKAFsLAMDsMEMsNUNsSEMKsAINsPEsSADEsQOFsROSHsSHINsTAUlNUMBER ONEsTENtWENTYsONE HUNDRED
sTWOtHREE"⟩,
  ⟨0x1091f, "
aPHOENICIAN WORD SEPARATORaLYDIAN LETTER AoBoGoDoEoVoIoYoKoLoMoNoOoRoSSoToUoFoQoSoTToANoENoLYoNN
oC"⟩,
  ⟨0x1093f, "aLYDIAN TRIANGULAR MARK"⟩,
  ⟨0x10980, "
aMEROITIC HIEROGLYPHIC LETTER AzTER EzTER IzTER OzTER YAzTER WAzTER BAzTER BA-2zTER PAzTER MA
zTER NAzTER NA-2zTER NEzTER NE-2zTER RAzTER RA-2zTER LAzTER KHAzTER HHAzTER SAzTER SA-2zTER SE
zTER KAzTER QAzTER TAzTER TA-2zTER TEzTER TE-2zTER TOzTER DAwSYMBOL VIDJzBOL VIDJ-2
jCURSIVE LETTER AyEyIyOyYAyWAyBAyPAyMAyNAzEyRAyLAyKHAyHHAySAyARCHAIC SAySEyKAyQAyTAzEzOyDA"⟩,
  ⟨0x109bc, "
aMEROITIC CURSIVE FRACTION ELEVEN TWELFTHSz ONE HALFrLOGOGRAM RMTz IMNrNUMBER ONEyTWOzHREEyFOUR
zIVEySIXzEVENyEIGHTyNINEyTENzWENTYzHIRTYyFORTYzIFTYySIXTYzEVENTY"⟩,
  ⟨0x109d2, "
aMEROITIC CURSIVE NUMBER ONE HUNDREDyTWO HUNDREDzHREE HUNDREDyFOUR HUNDREDzIVE HUNDRED
ySIX HUNDREDzEVEN HUNDREDyEIGHT HUNDREDyNINE HUNDREDyONE THOUSANDyTWO THOUSANDzHREE THOUSAND
yFOUR THOUSANDzIVE THOUSANDySIX THOUSANDzEVEN THOUSANDyEIGHT THOUSANDyNINE THOUSANDyTEN THOUSAND
zWENTY THOUSANDzHIRTY THOUSANDyFORTY THOUSANDzIFTY THOUSANDySIXTY THOUSANDzEVENTY THOUSAND
yEIGHTY THOUSANDyNINETY THOUSANDyONE HUNDRED THOUSANDyTWO HUNDRED THOUSANDzHREE HUNDRED THOUSAND
yFOUR HUNDRED THOUSANDzIVE HUNDRED THOUSANDySIX HUNDRED THOUSANDzEVEN HUNDRED THOUSAND
yEIGHT HUNDRED THOUSANDyNINE HUNDRED THOUSANDrFRACTION ONE TWELFTHz TWO TWELFTHSz THREE TWELFTHS
z FOUR TWELFTHSz FIVE TWELFTHSz SIX TWELFTHSz SEVEN TWELFTHSz EIGHT TWELFTHSz NINE TWELFTHS
z TEN TWELFTHSaKHAROSHTHI LETTER AlVOWEL SIGN IwUwVOCALIC R"⟩,
  ⟨0x10a05, "aKHAROSHTHI VOWEL SIGN EwO"⟩,
  ⟨0x10a0c, "
aKHAROSHTHI VOWEL LENGTH MARKlSIGN DOUBLE RING BELOWqANUSVARAqVISARGAlLETTER KAtHAsGAtHA"⟩,
  ⟨0x10a15, "aKHAROSHTHI LETTER CAtHAsJA"⟩,
  ⟨0x10a19, "
aKHAROSHTHI LETTER NYAsTTAuHAsDDAuHAsNNAsTAtHAsDAtHAsNAsPAtHAsBAtHAsMAsYAsRAsLAsVAsSHAtSAtAsZA
sHAsKKAsTTTHAvAsVHA"⟩,
  ⟨0x10a38, "aKHAROSHTHI SIGN BAR ABOVEqCAUDAqDOT BELOW"⟩,
  ⟨0x10a3f, "
aKHAROSHTHI VIRAMAlDIGIT ONErTWOsHREErFOURlNUMBER TENtWENTYsONE HUNDREDwTHOUSAND
lFRACTION ONE HALF"⟩,
  ⟨0x10a50, "
aKHAROSHTHI PUNCTUATION DOTxSMALL CIRCLExCIRCLEyRESCENT BARxMANGALAMxLOTUSxDANDAyOUBLE DANDA
xLINES"⟩,
  ⟨0x10a60, "
aOLD SOUTH ARABIAN LETTER HEzLAMEDHzHETHzMEMzQOPHzWAWzSHINzRESHzBETHzTAWzSATzKAPHzNUNzKHETH
zSADHEzSAMEKHzFEzALEFzAYNzDHADHEzGIMELzDALETHzGHAYNzTETHzZAYNzDHALETHzYODHzTHAWzTHETHsNUMBER ONE
zFIFTYvERIC INDICATOReNORTH ARABIAN LETTER HEHzLAMzHAHzMEEMzQAFzWAWzES-2zREHzBEHzTEHzES-1zKAF
zNOONzKHAHzSADzES-3zFEHzALEFzAINzDADzGEEMzDALzGHAINzTAHzZAINzTHALzYEHzTHEHzZAHsNUMBER ONEzTEN
zTWENTY"⟩,
  ⟨0x10ac0, "
aMANICHAEAN LETTER ALEPHsBETHtHETHsGIMELtHIMELsDALETHsHEsWAWlSIGN UDlLETTER ZAYINtHAYINsJAYIN
tHAYINsHETHsTETHsYODHsKAPHsXAPHsKHAPHsLAMEDHsDHAMEDHsTHAMEDHsMEMsNUNsSAMEKHsAYINtAYINsPEsFE
sSADHEsQOPHsXOPHsQHOPHsRESHsSHINtSHINsTAWlABBREVIATION MARK ABOVEzARK BELOW"⟩,
  ⟨0x10aeb, "
aMANICHAEAN NUMBER ONEsFIVEsTENtWENTYsONE HUNDREDlPUNCTUATION STARxFLEURONxDOUBLE DOT WITHIN DOT
zT WITHIN DOTzTxTWO DOTSxLINE FILLER"⟩,
  ⟨0x10b00, "
aAVESTAN LETTER AqAqOqAOqNqANqErEpEqEpOqOpIqIpUqUpKEpXEqYEqVEpGEqGEqHEpCEpJEpTEqHEpDEqHEpTTEpPE
pFEpBEqHEpNGErYErVEqEqYEqNEpMEpHMEpYYEqEpVEpREpLEpSEpZEpSHEpZHEpSHYEqSHEpHE"⟩,
  ⟨0x10b39, "
aAVESTAN ABBREVIATION MARKaTINY TWO DOTS OVER ONE DOT PUNCTUATION
aSMALL TWO DOTS OVER ONE DOT PUNCTUATIONaLARGE TWO DOTS OVER ONE DOT PUNCTUATION
gONE DOT OVER TWO DOTS PUNCTUATIONgTWO RINGS OVER ONE RING PUNCTUATION
gONE RING OVER TWO RINGS PUNCTUATIONaINSCRIPTIONAL PARTHIAN LETTER ALEPHzTTER BETHzTTER GIMEL
zTTER DALETHzTTER HEzTTER WAWzTTER ZAYINzTTER HETHzTTER TETHzTTER YODHzTTER KAPHzTTER LAMEDH
zTTER MEMzTTER NUNzTTER SAMEKHzTTER AYINzTTER PEzTTER SADHEzTTER QOPHzTTER RESHzTTER SHIN
zTTER TAW"⟩,
  ⟨0x10b58, "
aINSCRIPTIONAL PARTHIAN NUMBER ONEzMBER TWOzMBER THREEzMBER FOURzMBER TENzMBER TWENTY
zMBER ONE HUNDREDzMBER ONE THOUSANDqHLAVI LETTER ALEPHzTER BETHzTER GIMELzTER DALETHzTER HE
zTER WAW-AYIN-RESHzTER ZAYINzTER HETHzTER TETHzTER YODHzTER KAPHzTER LAMEDHzTER MEM-QOPHzTER NUN
zTER SAMEKHzTER PEzTER SADHEzTER SHINzTER TAW"⟩,
  ⟨0x10b78, "
aINSCRIPTIONAL PAHLAVI NUMBER ONEzBER TWOzBER THREEzBER FOURzBER TENzBER TWENTYzBER ONE HUNDRED
zBER ONE THOUSANDaPSALTER PAHLAVI LETTER ALEPHxBETHxGIMELxDALETHxHExWAW-AYIN-RESHxZAYINxHETH
xYODHxKAPHxLAMEDHxMEM-QOPHxNUNxSAMEKHxPExSADHEyHINxTAW"⟩,
  ⟨0x10b99, "
aPSALTER PAHLAVI SECTION MARKqTURNED SECTION MARKqFOUR DOTS WITH CROSSz WITH DOT"⟩,
  ⟨0x10ba9, "aPSALTER PAHLAVI NUMBER ONExTWOyHREExFOURxTENyWENTYxONE HUNDRED"⟩,
  ⟨0x10c00, "
aOLD TURKIC LETTER ORKHON AsYENISEI Az AEsORKHON IsYENISEI Iz EsORKHON OzOEsYENISEI OEsORKHON AB
sYENISEI ABsORKHON AEBsYENISEI AEBsORKHON AGsYENISEI AGsORKHON AEGsYENISEI AEGsORKHON AD
sYENISEI ADsORKHON AEDzEZsYENISEI EZsORKHON AYsYENISEI AYsORKHON AEYsYENISEI AEYsORKHON AEK
sYENISEI AEKsORKHON OEKsYENISEI OEKsORKHON ALsYENISEI ALsORKHON AELzELTzEMzANzAENsYENISEI AEN
sORKHON ENTsYENISEI ENTsORKHON ENCsYENISEI ENCsORKHON ENYsYENISEI ENYz ANGsORKHON ENG
sYENISEI AENGsORKHON EPzOPzICzECsYENISEI ECsORKHON AQsYENISEI AQsORKHON IQsYENISEI IQsORKHON OQ
sYENISEI OQsORKHON ARsYENISEI ARsORKHON AERzASzAESzASHsYENISEI ASHsORKHON ESHsYENISEI ESH
sORKHON ATsYENISEI ATsORKHON AETsYENISEI AETsORKHON OTzBASH"⟩,
  ⟨0x10c80, "
aOLD HUNGARIAN CAPITAL LETTER AzTER AAzTER EBzTER AMBzTER ECzTER ENCzTER ECSzTER EDzTER AND
zTER EzTER CLOSE EzTER EEzTER EFzTER EGzTER EGYzTER EHzTER IzTER IIzTER EJzTER EKzTER AKzTER UNK
zTER ELzTER ELYzTER EMzTER ENzTER ENYzTER OzTER OOzTER NIKOLSBURG OEzTER RUDIMENTA OEzTER OEE
zTER EPzTER EMPzTER ERzTER SHORT ERzTER ESzTER ESZzTER ETzTER ENTzTER ETYzTER ECHzTER UzTER UU
zTER NIKOLSBURG UEzTER RUDIMENTA UEzTER EVzTER EZzTER EZSzTER ENT-SHAPED SIGNzTER US"⟩,
  ⟨0x10cc0, "
aOLD HUNGARIAN SMALL LETTER AzR AAzR EBzR AMBzR ECzR ENCzR ECSzR EDzR ANDzR EzR CLOSE EzR EE
zR EFzR EGzR EGYzR EHzR IzR IIzR EJzR EKzR AKzR UNKzR ELzR ELYzR EMzR ENzR ENYzR OzR OO
zR NIKOLSBURG OEzR RUDIMENTA OEzR OEEzR EPzR EMPzR ERzR SHORT ERzR ESzR ESZzR ETzR ENTzR ETY
zR ECHzR UzR UUzR NIKOLSBURG UEzR RUDIMENTA UEzR EVzR EZzR EZSzR ENT-SHAPED SIGNzR US"⟩,
  ⟨0x10cfa, "
aOLD HUNGARIAN NUMBER ONEvFIVEvTENvFIFTYvONE HUNDREDzTHOUSANDaHANIFI ROHINGYA LETTER AxBAxPAxTA
yTAxJAxCAxHAxKHAxFAxDAyDAxRAyRAxZAxSAyHAxKAxGAxLAxMAxNAxWAxKINNA WAxYAxKINNA YAxNGAyYAxVA
qVOWEL AwIwUwEwOqMARK SAKINvNA KHONNAqSIGN HARBAHAYvTAHALAxNAxSSI"⟩,
  ⟨0x10d30, "aHANIFI ROHINGYA DIGIT ZEROwONEwTWOxHREEwFOURxIVEwSIXxEVENwEIGHTwNINE"⟩,
  ⟨0x10e60, "
aRUMI DIGIT ONElTWOmHREElFOURmIVElSIXmEVENlEIGHTlNINEfNUMBER TENnWENTYnHIRTYmFORTYnIFTYmSIXTY
nEVENTYmEIGHTYmNINETYmONE HUNDREDmTWO HUNDREDnHREE HUNDREDmFOUR HUNDREDnIVE HUNDREDmSIX HUNDRED
nEVEN HUNDREDmEIGHT HUNDREDmNINE HUNDREDfFRACTION ONE HALFsQUARTERsTHIRDoTWO THIRDS"⟩,
  ⟨0x10e80, "
aYEZIDI LETTER ELIFoBEoPEpHEoTHEoSEoCIMpHIMqHIMoHHAoXAoDALoZALoRApHAoZAoJAoSINpHINpADoDADoTAoZE
oEYNoXHEYNoFAoVAq ALTERNATE FORMoQAFoKAFpHAFoGAFoLAMoMIMoNUNoUMoWAWoOWoEWoHAYoYOToET"⟩,
  ⟨0x10eab, "aYEZIDI COMBINING HAMZA MARKrMADDA MARKhHYPHENATION MARK"⟩,
  ⟨0x10eb0, "aYEZIDI LETTER LAM WITH DOT ABOVEoYOT WITH CIRCUMFLEX ABOVE"⟩,
  ⟨0x10f00, "
aOLD SOGDIAN LETTER ALEPHtFINAL ALEPHtBETHtFINAL BETHtGIMELtHEtFINAL HEtWAWtZAYINtHETHtYODHtKAPH
tLAMEDHtMEMtNUNtFINAL NUNzNUN WITH VERTICAL TAILtSAMEKHtAYINuLTERNATE AYINtPEtSADHEtFINAL SADHE
zSADHE WITH VERTICAL TAILtRESH-AYIN-DALETHtSHINtTAWtFINAL TAWzTAW WITH VERTICAL TAILmNUMBER ONE
tTWOuHREEtFOURuIVEtTENuWENTYuHIRTYtONE HUNDREDmFRACTION ONE HALFmLIGATURE AYIN-DALETH"⟩,
  ⟨0x10f30, "
aSOGDIAN LETTER ALEPHpBETHpGIMELpHEpWAWpZAYINpHETHpYODHpKAPHpLAMEDHpMEMpNUNpSAMEKHpAYINpPEpSADHE
pRESH-AYINpSHINpTAWpFETHpLESHiINDEPENDENT SHINiCOMBINING DOT BELOWsTWO DOTS BELOWsDOT ABOVE
sTWO DOTS ABOVEsCURVE ABOVEyBELOWsHOOK ABOVExBELOWsLONG HOOK BELOWsRESH BELOWsSTROKE BELOW
iNUMBER ONEpTENqWENTYpONE HUNDREDiPUNCTUATION TWO VERTICAL BARSzERTICAL BARS WITH DOTS
uCIRCLE WITH DOTuTWO CIRCLES WITH DOTSuHALF CIRCLE WITH DOT"⟩,
  ⟨0x10f70, "
aOLD UYGHUR LETTER ALEPHsBETHsGIMEL-HETHsWAWsZAYINsFINAL HETHsYODHsKAPHsLAMEDHsMEMsNUNsSAMEKHsPE
sSADHEsRESHsSHINsTAWsLESHlCOMBINING DOT ABOVEzBELOWvTWO DOTS ABOVEzDOTS BELOWlPUNCTUATION BAR
xTWO BARSzO DOTSxFOUR DOTS"⟩,
  ⟨0x10fb0, "
aCHORASMIAN LETTER ALEPHsSMALL ALEPHsBETHsGIMELsDALETHsHEsWAWsCURLED WAWsZAYINsHETHsYODHsKAPH
sLAMEDHsMEMsNUNsSAMEKHsAYINsPEsRESHsSHINsTAWlNUMBER ONEsTWOtHREEsFOURsTENtWENTYsONE HUNDRED"⟩,
  ⟨0x10fe0, "
aELYMAIC LETTER ALEPHpBETHpGIMELpDALETHpHEpWAWpZAYINpHETHpTETHpYODHpKAPHpLAMEDHpMEMpNUNpSAMEKH
pAYINpPEpSADHEpQOPHpRESHpSHINpTAWjIGATURE ZAYIN-YODH"⟩]

end ChatRiddles.Text.Names
